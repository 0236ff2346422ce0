import KosCeExtra.Grpc.CommandLineArg

/-!
# The arguments that the gRPC programs accept

Which arguments a loop accepts does not depend on the values it has set before, and
an argument that it does not accept ends it without changing a value.  So a loop
goes through exactly when it accepts every argument, and then the values are those
that the arguments set one after the other.
-/

namespace KosCeExtra.Grpc

section Loop

variable {σ : Type} {parseArg : σ → Text → Except Text Unit × σ}
  {Accepts : Text → Prop} {effect : σ → Text → σ}

/-- Each argument has an effect, or ends the loop and has none. -/
structure ParsesBy (parseArg : σ → Text → Except Text Unit × σ)
    (Accepts : Text → Prop) (effect : σ → Text → σ) : Prop where
  accepts : ∀ options arg, Accepts arg →
    parseArg options arg = (.ok (), effect options arg)
  refuses : ∀ options arg, ¬ Accepts arg →
    ∃ message, parseArg options arg = (.error message, options)

theorem ParsesBy.parseArgs_eq (parses : ParsesBy parseArg Accepts effect)
    {args : List Text} (accepted : ∀ arg ∈ args, Accepts arg) (options : σ) :
    parseArgs parseArg options args = (.ok (), args.foldl effect options) := by
  induction args generalizing options with
  | nil => rfl
  | cons arg args induction =>
      have first := accepted arg List.mem_cons_self
      have rest : ∀ later ∈ args, Accepts later := by
        intro later member
        exact accepted later (List.mem_cons_of_mem arg member)
      simp only [parseArgs, parses.accepts options arg first]
      exact induction rest (effect options arg)

theorem ParsesBy.ok_iff (parses : ParsesBy parseArg Accepts effect)
    (options : σ) (args : List Text) :
    (parseArgs parseArg options args).1 = .ok () ↔
      ∀ arg ∈ args, Accepts arg := by
  constructor
  · intro passed
    induction args generalizing options with
    | nil =>
        intro arg impossible
        cases impossible
    | cons arg args induction =>
        by_cases first : Accepts arg
        · simp only [parseArgs, parses.accepts options arg first] at passed
          intro later member
          rcases List.mem_cons.mp member with same | behind
          · exact same ▸ first
          · exact induction (effect options arg) passed later behind
        · obtain ⟨message, refused⟩ := parses.refuses options arg first
          simp only [parseArgs, refused] at passed
          cases passed
  · intro accepted
    rw [parses.parseArgs_eq accepted]

private theorem ParsesBy.accepts_of_ok (parses : ParsesBy parseArg Accepts effect)
    {options : σ} {arg : Text}
    (passed : (parseArg options arg).1 = .ok ()) : Accepts arg := by
  by_contra other
  obtain ⟨message, refused⟩ := parses.refuses options arg other
  rw [refused] at passed
  cases passed

theorem ParsesBy.keeps_of_error (parses : ParsesBy parseArg Accepts effect)
    {options : σ} {arg message : Text}
    (threw : (parseArg options arg).1 = .error message) :
    (parseArg options arg).2 = options := by
  by_cases accepted : Accepts arg
  · rw [parses.accepts options arg accepted] at threw
    cases threw
  · obtain ⟨message, refused⟩ := parses.refuses options arg accepted
    rw [refused]

end Loop

/-- `--target=` -/
def targetOption : Text := argTarget ++ [separator]

def ClientAccepts (arg : Text) : Prop :=
  arg = argSecure ∨ targetOption <+: arg

instance (arg : Text) : Decidable (ClientAccepts arg) :=
  inferInstanceAs (Decidable (_ ∨ _))

/-- What an accepted argument sets. -/
def clientEffect (options : ClientOptions) (arg : Text) : ClientOptions :=
  if arg = argSecure then
    { options with useSecureConnection := true }
  else
    { options with targetEndpoint := arg.drop targetOption.length }

/-- An argument with a target is nothing for `--secure`. -/
theorem foreign_secure_of_target (given : Text) :
    Foreign argSecure (argTarget ++ separator :: given) where
  longer := by
    intro same
    cases same
  noValue := by
    intro start
    obtain ⟨more, same⟩ := start
    cases same

private theorem not_target_of_secure : ¬ targetOption <+: argSecure := by
  intro start
  obtain ⟨more, same⟩ := start
  cases same

private theorem parseClientArg_secure (options : ClientOptions) :
    parseClientArg options argSecure =
      (.ok (), { options with useSecureConnection := true }) := by
  simp only [parseClientArg, tryParseBool_matches]

private theorem parseClientArg_target (options : ClientOptions) (given : Text) :
    parseClientArg options (argTarget ++ separator :: given) =
      (.ok (), { options with targetEndpoint := given }) := by
  simp only [parseClientArg, tryParseString_matches,
    tryParseBool_foreign (foreign_secure_of_target given)]

private theorem parseClientArg_refuses (options : ClientOptions) {arg : Text}
    (refused : ¬ ClientAccepts arg) :
    ∃ message, parseClientArg options arg = (.error message, options) := by
  rcases arg_cases argSecure arg with same | ⟨given, rfl⟩ | foreign
  · exact absurd (.inl same) refused
  · simp only [parseClientArg, tryParseBool_throws]
    exact ⟨_, rfl⟩
  · rcases arg_cases argTarget arg with rfl | ⟨given, valued⟩ | unknown
    · simp only [parseClientArg, tryParseBool_foreign foreign,
        tryParseString_throws]
      exact ⟨_, rfl⟩
    · have accepted := prefix_separator_iff.mpr ⟨given, valued⟩
      exact absurd (.inr accepted) refused
    · simp only [parseClientArg, tryParseBool_foreign foreign,
        tryParseString_foreign unknown]
      exact ⟨_, rfl⟩

theorem client_parsesBy : ParsesBy parseClientArg ClientAccepts clientEffect where
  accepts := by
    intro options arg accepted
    rcases accepted with rfl | target
    · simp only [parseClientArg_secure, clientEffect, if_true]
    · obtain ⟨given, rfl⟩ := prefix_separator_iff.mp target
      have other : argTarget ++ separator :: given ≠ argSecure :=
        (foreign_secure_of_target given).longer
      rw [parseClientArg_target, clientEffect, if_neg other]
      rfl
  refuses := fun options _ => parseClientArg_refuses options

theorem server_parsesBy :
    ParsesBy parseServerArg (· = argSecure) (fun _ _ => true) where
  accepts := by
    intro useSecureConnection arg same
    subst same
    simp only [parseServerArg, tryParseBool_matches]
  refuses := by
    intro useSecureConnection arg other
    rcases arg_cases argSecure arg with same | ⟨given, rfl⟩ | foreign
    · exact absurd same other
    · simp only [parseServerArg, tryParseBool_throws]
      exact ⟨_, rfl⟩
    · simp only [parseServerArg, tryParseBool_foreign foreign]
      exact ⟨_, rfl⟩

/-! ## The values that the client is left with -/

theorem effects_secure_iff (args : List Text) (options : ClientOptions) :
    (args.foldl clientEffect options).useSecureConnection = true ↔
      options.useSecureConnection = true ∨ argSecure ∈ args := by
  induction args generalizing options with
  | nil => simp
  | cons arg args induction =>
      rw [List.foldl_cons, induction, List.mem_cons]
      by_cases secure : arg = argSecure
      · simp [clientEffect, secure]
      · simp [clientEffect, secure, Ne.symm secure]

theorem effects_target_kept {args : List Text}
    (accepted : ∀ arg ∈ args, ClientAccepts arg)
    (others : ∀ arg ∈ args, ¬ targetOption <+: arg) (options : ClientOptions) :
    (args.foldl clientEffect options).targetEndpoint =
      options.targetEndpoint := by
  induction args generalizing options with
  | nil => rfl
  | cons arg args induction =>
      have secure : arg = argSecure := by
        rcases accepted arg List.mem_cons_self with same | target
        · exact same
        · exact absurd target (others arg List.mem_cons_self)
      rw [List.foldl_cons, induction]
      · rw [clientEffect, if_pos secure]
      · intro later member
        exact accepted later (List.mem_cons_of_mem arg member)
      · intro later member
        exact others later (List.mem_cons_of_mem arg member)

private theorem clientEffect_target (options : ClientOptions) (given : Text) :
    (clientEffect options (targetOption ++ given)).targetEndpoint = given := by
  have other : targetOption ++ given ≠ argSecure := by
    intro same
    apply not_target_of_secure
    exact ⟨given, same⟩
  rw [clientEffect, if_neg other]
  exact List.drop_left

/-- The last target counts. -/
theorem effects_target_last {before after : List Text} {given : Text}
    (accepted : ∀ arg ∈ after, ClientAccepts arg)
    (last : ∀ later ∈ after, ¬ targetOption <+: later)
    (options : ClientOptions) :
    ((before ++ (targetOption ++ given) :: after).foldl clientEffect
      options).targetEndpoint = given := by
  rw [List.foldl_append, List.foldl_cons, effects_target_kept accepted last]
  exact clientEffect_target _ given

/-! ## Arguments that are not accepted -/

/-- A longer word than `--secure` is not taken for it, and one that has `--target`
in front needs the separator next. -/
theorem not_accepted_of_longer (more : Text) :
    (ClientAccepts (argSecure ++ more) → more = []) ∧
      (ClientAccepts (argTarget ++ more) → more.head? = some separator) := by
  constructor
  · intro accepted
    rcases accepted with same | target
    · exact List.append_right_eq_self.mp same
    · obtain ⟨rest, impossible⟩ := target
      cases impossible
  · intro accepted
    rcases accepted with impossible | target
    · cases impossible
    · obtain ⟨rest, same⟩ := target
      rw [targetOption, List.append_assoc] at same
      rw [← List.append_cancel_left same]
      rfl

/-- The client accepts a command line if and only if every argument is `--secure` or
starts with `--target=`; it is secure if the first occurs, and the last of the others
gives its endpoint.  The server accepts one of `--secure` only.  Words that go on
behind the name of an option are not accepted, an argument that ends the loop changes
neither value, and a call without a match leaves the value it was handed. -/
theorem commandLines_accepted (defaultEndpoint : Text) (args : List Text) :
    ((parseClientArgs defaultEndpoint args).1 = .ok () ↔
      ∀ arg ∈ args, arg = argSecure ∨ targetOption <+: arg) ∧
    ((parseClientArgs defaultEndpoint args).1 = .ok () →
      ((parseClientArgs defaultEndpoint args).2.useSecureConnection = true ↔
        argSecure ∈ args) ∧
      (∀ before given after, args = before ++ (targetOption ++ given) :: after →
        (∀ later ∈ after, ¬ targetOption <+: later) →
        (parseClientArgs defaultEndpoint args).2.targetEndpoint = given) ∧
      ((∀ arg ∈ args, ¬ targetOption <+: arg) →
        (parseClientArgs defaultEndpoint args).2.targetEndpoint =
          defaultEndpoint)) ∧
    ((parseServerArgs args).1 = .ok () ↔ ∀ arg ∈ args, arg = argSecure) ∧
    (∀ options more,
      ((parseClientArg options (argSecure ++ more)).1 = .ok () → more = []) ∧
      ((parseClientArg options (argTarget ++ more)).1 = .ok () →
        more.head? = some separator)) ∧
    (∀ options arg message, (parseClientArg options arg).1 = .error message →
      (parseClientArg options arg).2 = options) ∧
    (∀ argName argText value,
      (tryParseBool argName argText value).1 ≠ .ok true →
        (tryParseBool argName argText value).2 = value) ∧
    (∀ argName argText value,
      (tryParseString argName argText value).1 ≠ .ok true →
        (tryParseString argName argText value).2 = value) := by
  have client := client_parsesBy.ok_iff
    { useSecureConnection := false, targetEndpoint := defaultEndpoint } args
  refine ⟨client, ?_, server_parsesBy.ok_iff false args, ?_, ?_, ?_, ?_⟩
  · intro passed
    have accepted := client.mp passed
    rw [parseClientArgs, client_parsesBy.parseArgs_eq accepted]
    refine ⟨?_, ?_, ?_⟩
    · rw [effects_secure_iff]
      simp
    · intro before given after split last
      subst split
      apply effects_target_last _ last
      intro later member
      apply accepted
      exact List.mem_append_right before (List.mem_cons_of_mem _ member)
    · intro others
      exact effects_target_kept accepted others _
  · intro options more
    constructor
    · intro passed
      exact (not_accepted_of_longer more).1
        (client_parsesBy.accepts_of_ok passed)
    · intro passed
      exact (not_accepted_of_longer more).2
        (client_parsesBy.accepts_of_ok passed)
  · intro options arg message threw
    exact client_parsesBy.keeps_of_error threw
  · intro argName argText value rejected
    exact tryParseBool_keeps rejected
  · intro argName argText value rejected
    exact tryParseString_keeps rejected

end KosCeExtra.Grpc
