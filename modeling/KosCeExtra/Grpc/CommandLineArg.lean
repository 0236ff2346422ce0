import Mathlib.Data.List.Infix

/-!
# The command lines of the gRPC programs

A transcription of both overloads of `TryParse` from
`examples/grpc/libraries/utility_lib/CommandLineArg.cc`, and of the loops over the
arguments in the `main` functions of the client and the server.  A call either
matches, does not match, or throws; in each case the model gives the value that it
leaves in the variable it was handed.

A text is a list of characters, one for each byte.
-/

namespace KosCeExtra.Grpc

abbrev Text := List Char

/-- `text.find(pattern)`, with `none` for `npos`. -/
def find (pattern : Text) : Text → Option Nat
  | [] => if pattern = [] then some 0 else none
  | head :: rest =>
      if pattern <+: head :: rest then some 0
      else (find pattern rest).map (· + 1)

def separator : Char := '='

/-- What a call of `TryParse` comes to, with the value it leaves. -/
abbrev Outcome (α : Type) := Except Text Bool × α

/-- The overload for switches. -/
def tryParseBool (argName argText : Text) (value : Bool) : Outcome Bool :=
  if find argName argText = some 0 then
    let nameSize := argName.length
    if argText.length = nameSize then
      (.ok true, true)
    else if argText[nameSize]? = some separator then
      (.error ("The only correct argument syntax is ".toList ++ argName), value)
    else
      (.ok false, value)
  else
    (.ok false, value)

/-- The overload for options with a value. -/
def tryParseString (argName argText value : Text) : Outcome Text :=
  if find argName argText = some 0 then
    let separatorPosition := argName.length
    if argText.length > separatorPosition then
      if argText[separatorPosition]? = some separator then
        let valuePosition := separatorPosition + 1
        (.ok true, argText.drop valuePosition)
      else
        (.ok false, value)
    else
      (.error ("The only correct argument syntax is ".toList ++ argName ++
        separator :: "argument_value".toList), value)
  else
    (.ok false, value)

def argSecure : Text := "--secure".toList
def argTarget : Text := "--target".toList

/-- The variables of the client's `main` that the loop sets. -/
structure ClientOptions where
  useSecureConnection : Bool
  targetEndpoint : Text
  deriving DecidableEq, Repr

/-- The body of the client's loop. -/
def parseClientArg (options : ClientOptions) (arg : Text) :
    Except Text Unit × ClientOptions :=
  let secure := tryParseBool argSecure arg options.useSecureConnection
  let options := { options with useSecureConnection := secure.2 }
  match secure.1 with
  | .error message => (.error message, options)
  | .ok true => (.ok (), options)
  | .ok false =>
      let target := tryParseString argTarget arg options.targetEndpoint
      let options := { options with targetEndpoint := target.2 }
      match target.1 with
      | .error message => (.error message, options)
      | .ok true => (.ok (), options)
      | .ok false =>
          (.error ("The only acceptable arguments are\n".toList ++ argSecure ++
            "\n".toList ++ argTarget), options)

/-- The body of the server's loop, with `useSecureConnection`. -/
def parseServerArg (useSecureConnection : Bool) (arg : Text) :
    Except Text Unit × Bool :=
  let secure := tryParseBool argSecure arg useSecureConnection
  match secure.1 with
  | .error message => (.error message, secure.2)
  | .ok true => (.ok (), secure.2)
  | .ok false =>
      (.error ("The only acceptable argument is\n".toList ++ argSecure),
        secure.2)

/-- A loop over the arguments, which the first exception ends. -/
def parseArgs {σ : Type} (parseArg : σ → Text → Except Text Unit × σ) :
    σ → List Text → Except Text Unit × σ
  | options, [] => (.ok (), options)
  | options, arg :: args =>
      match parseArg options arg with
      | (.ok (), next) => parseArgs parseArg next args
      | (.error message, next) => (.error message, next)

/-- The loop of the client, for the endpoint that it is built with. -/
def parseClientArgs (defaultEndpoint : Text) (args : List Text) :
    Except Text Unit × ClientOptions :=
  parseArgs parseClientArg
    { useSecureConnection := false, targetEndpoint := defaultEndpoint } args

def parseServerArgs (args : List Text) : Except Text Unit × Bool :=
  parseArgs parseServerArg false args

theorem find_eq_zero_iff {pattern text : Text} :
    find pattern text = some 0 ↔ pattern <+: text := by
  cases text with
  | nil => simp [find]
  | cons head rest =>
      by_cases start : pattern <+: head :: rest
      · simp [find, start]
      · have later : (find pattern rest).map (· + 1) ≠ some 0 := by
          simp
        rw [find, if_neg start]
        exact iff_of_false later start

/-- An argument that has a name at most as a part of a longer word. -/
structure Foreign (argName argText : Text) : Prop where
  longer : argText ≠ argName
  noValue : ¬ argName ++ [separator] <+: argText

theorem prefix_separator_iff {argName argText : Text} :
    argName ++ [separator] <+: argText ↔
      ∃ given, argText = argName ++ separator :: given := by
  constructor
  · intro start
    obtain ⟨given, same⟩ := start
    refine ⟨given, ?_⟩
    rw [← same, List.append_assoc, List.singleton_append]
  · intro valued
    obtain ⟨given, rfl⟩ := valued
    exact ⟨given, List.append_cons _ _ _ |>.symm⟩

/-- What an argument can be for a name. -/
theorem arg_cases (argName argText : Text) :
    argText = argName ∨
      (∃ given, argText = argName ++ separator :: given) ∨
      Foreign argName argText := by
  by_cases same : argText = argName
  · exact .inl same
  · by_cases valued : argName ++ [separator] <+: argText
    · exact .inr (.inl (prefix_separator_iff.mp valued))
    · exact .inr (.inr ⟨same, valued⟩)

theorem Foreign.cases {argName argText : Text}
    (foreign : Foreign argName argText) :
    ¬ argName <+: argText ∨
      ∃ next more, argText = argName ++ next :: more ∧ next ≠ separator := by
  by_cases start : argName <+: argText
  · right
    obtain ⟨rest, rfl⟩ := start
    cases rest with
    | nil => exact absurd (List.append_nil argName) foreign.longer
    | cons next more =>
        refine ⟨next, more, rfl, ?_⟩
        intro same
        apply foreign.noValue
        apply prefix_separator_iff.mpr
        exact ⟨more, same ▸ rfl⟩
  · exact .inl start

section TryParse

variable {argName argText : Text}

theorem tryParseBool_matches (argName : Text) (value : Bool) :
    tryParseBool argName argName value = (.ok true, true) := by
  have start : find argName argName = some 0 :=
    find_eq_zero_iff.mpr List.prefix_rfl
  simp [tryParseBool, start]

theorem tryParseBool_throws (argName given : Text) (value : Bool) :
    tryParseBool argName (argName ++ separator :: given) value =
      (.error ("The only correct argument syntax is ".toList ++ argName),
        value) := by
  have start : find argName (argName ++ separator :: given) = some 0 :=
    find_eq_zero_iff.mpr (List.prefix_append _ _)
  simp [tryParseBool, start]

theorem tryParseBool_foreign (foreign : Foreign argName argText)
    (value : Bool) :
    tryParseBool argName argText value = (.ok false, value) := by
  rcases foreign.cases with absent | ⟨next, more, rfl, different⟩
  · have elsewhere : find argName argText ≠ some 0 :=
      mt find_eq_zero_iff.mp absent
    simp [tryParseBool, elsewhere]
  · simp [tryParseBool, different]

theorem tryParseString_matches (argName given value : Text) :
    tryParseString argName (argName ++ separator :: given) value =
      (.ok true, given) := by
  have start : find argName (argName ++ separator :: given) = some 0 :=
    find_eq_zero_iff.mpr (List.prefix_append _ _)
  simp [tryParseString, start]

theorem tryParseString_throws (argName value : Text) :
    tryParseString argName argName value =
      (.error ("The only correct argument syntax is ".toList ++ argName ++
        separator :: "argument_value".toList), value) := by
  have start : find argName argName = some 0 :=
    find_eq_zero_iff.mpr List.prefix_rfl
  simp [tryParseString, start]

theorem tryParseString_foreign (foreign : Foreign argName argText)
    (value : Text) :
    tryParseString argName argText value = (.ok false, value) := by
  rcases foreign.cases with absent | ⟨next, more, rfl, different⟩
  · have elsewhere : find argName argText ≠ some 0 :=
      mt find_eq_zero_iff.mp absent
    simp [tryParseString, elsewhere]
  · simp [tryParseString, different]

/-- A call that does not match leaves the value as it is. -/
theorem tryParseBool_keeps {value : Bool}
    (rejected : (tryParseBool argName argText value).1 ≠ .ok true) :
    (tryParseBool argName argText value).2 = value := by
  rcases arg_cases argName argText with same | ⟨given, valued⟩ | foreign
  · subst same
    rw [tryParseBool_matches] at rejected
    exact absurd rfl rejected
  · rw [valued, tryParseBool_throws]
  · rw [tryParseBool_foreign foreign]

theorem tryParseString_keeps {value : Text}
    (rejected : (tryParseString argName argText value).1 ≠ .ok true) :
    (tryParseString argName argText value).2 = value := by
  rcases arg_cases argName argText with same | ⟨given, valued⟩ | foreign
  · subst same
    rw [tryParseString_throws]
  · subst valued
    rw [tryParseString_matches] at rejected
    exact absurd rfl rejected
  · rw [tryParseString_foreign foreign]

end TryParse

end KosCeExtra.Grpc
