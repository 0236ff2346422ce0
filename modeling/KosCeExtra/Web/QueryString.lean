import KosCeExtra.Web.Handlers

/-!
# What `GetParamValue` reads from a query

The plain reading cuts a query at its ampersands and each parameter at its first
equals sign.  `GetParamValue` reads up to an equals sign and then up to an
ampersand, so a parameter without an equals sign runs together with the ones
behind it, up to and with the key of the next that has one, and that one is lost
with it.  `readValue` says which parameters are left, and the last theorem when
the two readings differ.
-/

namespace KosCeExtra.Web

open GetDataHandler (paramLoop getParamValue)

/-- The text behind the first question mark. -/
def queryOf (target : Text) : Text :=
  (target.dropWhile (· != '?')).drop 1

def paramsOf (target : Text) : List Text :=
  (queryOf target).splitOn '&'

/-- The parameter up to its first equals sign. -/
def keyOf (param : Text) : Text :=
  param.takeWhile (· != '=')

/-- The parameter behind its first equals sign; nothing without one. -/
def valueOf (param : Text) : Text :=
  (param.dropWhile (· != '=')).drop 1

/-- The plain reading: the value of the first parameter of the name. -/
def plainValue (target name : Text) : Text :=
  match (paramsOf target).find? (fun param => keyOf param = name) with
  | some param => valueOf param
  | none => []

/-- The scan reads a parameter with an equals sign in it, unless one without
comes right before. -/
def Readable (before param : Text) : Prop :=
  '=' ∈ before ∧ '=' ∈ param

instance (before param : Text) : Decidable (Readable before param) :=
  inferInstanceAs (Decidable (_ ∧ _))

/-- The value of the first readable parameter of the name, among those behind
the parameter `before`. -/
def readValue (name before : Text) : List Text → Text
  | [] => []
  | param :: rest =>
      if Readable before param ∧ keyOf param = name then valueOf param
      else readValue name param rest

/-- The parameters behind `before` that are readable. -/
def readableBehind (before : Text) : List Text → List Text
  | [] => []
  | param :: rest =>
      if Readable before param then param :: readableBehind param rest
      else readableBehind param rest

/-- The next readable parameter of the name has the same value as `param`; where
there is none, that value is empty. -/
def SameAsNext (name param : Text) (back : List Text) : Prop :=
  match (readableBehind param back).find? (fun next => keyOf next = name) with
  | some next => valueOf next = valueOf param
  | none => valueOf param = []

/-- Nothing stands in the way of the first parameter. -/
def noParam : Text := ['=']

private theorem keyOf_append {key : Text} (free : '=' ∉ key) (value : Text) :
    keyOf (key ++ '=' :: value) = key := by
  rw [keyOf, takeWhile_bne_append free]
  simp

private theorem valueOf_append {key : Text} (free : '=' ∉ key) (value : Text) :
    valueOf (key ++ '=' :: value) = value := by
  rw [valueOf, dropWhile_bne_append free]
  simp

/-! ## Turns of the scan -/

theorem paramLoop_not_good {stream : TextStream}
    (bad : (stream.eof || stream.fail) = true) (oldKey oldVal name : Text) :
    paramLoop stream oldKey oldVal name = [] := by
  rw [paramLoop, TextStream.getline_not_good bad]
  simp [TextStream.ok]

/-- One turn over a parameter that ends at an ampersand. -/
theorem paramLoop_delimited {key value : Text} (keyFree : '=' ∉ key)
    (valueFree : '&' ∉ value) (rest oldKey oldVal name : Text) :
    paramLoop (.ofText (key ++ '=' :: (value ++ '&' :: rest))) oldKey oldVal
        name =
      if key = name then value
      else paramLoop (.ofText rest) key value name := by
  rw [paramLoop, TextStream.getline_delimited keyFree]
  simp only [TextStream.getline_delimited valueFree]
  rfl

/-- The turn over the last parameter. -/
theorem paramLoop_last {key value : Text} (keyFree : '=' ∉ key)
    (valueFree : '&' ∉ value) (oldKey oldVal name : Text) :
    paramLoop (.ofText (key ++ '=' :: value)) oldKey oldVal name =
      if key = name then value else [] := by
  rw [paramLoop, TextStream.getline_delimited keyFree]
  simp only [TextStream.getline_last valueFree]
  cases value with
  | nil => simp [TextStream.ok, TextStream.ofText]
  | cons head tail =>
      rw [paramLoop_not_good rfl]
      simp [TextStream.ok, TextStream.ofText]

/-- Without another equals sign the scan ends. -/
theorem paramLoop_keyless {text : Text} (free : '=' ∉ text)
    (oldKey oldVal name : Text) :
    paramLoop (.ofText text) oldKey oldVal name = [] := by
  rw [paramLoop, TextStream.getline_last free]
  simp only [TextStream.getline_not_good, Bool.true_or]
  simp [TextStream.ok]

/-! ## The parameters that are read -/

/-- The text that has run together in front of a parameter: nothing behind a
parameter with an equals sign, and else some text with an ampersand in it. -/
structure RunsInto (front before : Text) : Prop where
  free : '=' ∉ front
  clear : '=' ∈ before → front = []
  joined : '=' ∉ before → '&' ∈ front

theorem RunsInto.of_equals {param : Text} (equals : '=' ∈ param) :
    RunsInto [] param where
  free := List.not_mem_nil
  clear := fun _ => rfl
  joined := fun keyless => absurd equals keyless

/-- A parameter without an equals sign runs into the next one. -/
theorem RunsInto.append {front before param : Text}
    (runs : RunsInto front before) (keyless : '=' ∉ param) :
    RunsInto (front ++ param ++ ['&']) param where
  free := by
    simp [runs.free, keyless]
  clear := fun equals => absurd equals keyless
  joined := fun _ => by simp

/-- A key counts only without text that has run into it. -/
theorem RunsInto.key_eq_iff {front before key name : Text}
    (runs : RunsInto front before) (keyFree : '=' ∉ key)
    (nameFree : '&' ∉ name) (value : Text) :
    front ++ key = name ↔
      Readable before (key ++ '=' :: value) ∧
        keyOf (key ++ '=' :: value) = name := by
  rw [keyOf_append keyFree]
  by_cases equals : '=' ∈ before
  · simp [runs.clear equals, Readable, equals]
  · refine iff_of_false ?_ (fun reads => equals reads.1.1)
    rintro rfl
    exact nameFree (List.mem_append_left key (runs.joined equals))

private theorem paramLoop_eq_readValue {name : Text} (nameFree : '&' ∉ name)
    (text front before oldKey oldVal : Text) (runs : RunsInto front before) :
    paramLoop (.ofText (front ++ text)) oldKey oldVal name =
      readValue name before (text.splitOn '&') := by
  -- induction on the parameters, with what has run together in front of them
  induction length : text.length using Nat.strong_induction_on
    generalizing text front before oldKey oldVal with
  | _ count induction =>
      subst length
      by_cases more : '&' ∈ text
      · obtain ⟨param, rest, rfl, paramFree⟩ := List.eq_append_cons_of_mem more
        have shorter : rest.length < (param ++ '&' :: rest).length := by
          rw [List.length_append, List.length_cons]
          omega
        rw [List.splitOn_append_cons_self_of_not_mem paramFree, readValue]
        by_cases equals : '=' ∈ param
        · obtain ⟨key, value, rfl, keyFree⟩ :=
            List.eq_append_cons_of_mem equals
          have valueFree : '&' ∉ value := fun member =>
            paramFree (by simp [member])
          have joinedFree : '=' ∉ front ++ key := by
            simp [runs.free, keyFree]
          have text : front ++ (key ++ '=' :: value ++ '&' :: rest) =
              front ++ key ++ '=' :: (value ++ '&' :: rest) := by
            simp
          rw [text, paramLoop_delimited joinedFree valueFree,
            valueOf_append keyFree]
          have next := induction _ shorter rest [] (key ++ '=' :: value)
            (front ++ key) value (.of_equals equals) rfl
          rw [List.nil_append] at next
          by_cases named : front ++ key = name
          · rw [if_pos named,
              if_pos ((runs.key_eq_iff keyFree nameFree value).mp named)]
          · rw [if_neg named, next, if_neg]
            exact fun reads =>
              named ((runs.key_eq_iff keyFree nameFree value).mpr reads)
        · have text : front ++ (param ++ '&' :: rest) =
              front ++ param ++ ['&'] ++ rest := by
            simp
          rw [text, if_neg (fun reads => equals reads.1.2)]
          exact induction _ shorter rest _ param oldKey oldVal
            (runs.append equals) rfl
      · rw [List.splitOn_eq_singleton more, readValue, readValue]
        by_cases equals : '=' ∈ text
        · obtain ⟨key, value, rfl, keyFree⟩ :=
            List.eq_append_cons_of_mem equals
          have valueFree : '&' ∉ value := fun member =>
            more (by simp [member])
          have joinedFree : '=' ∉ front ++ key := by
            simp [runs.free, keyFree]
          rw [← List.append_assoc, paramLoop_last joinedFree valueFree,
            valueOf_append keyFree]
          exact if_congr (runs.key_eq_iff keyFree nameFree value) rfl rfl
        · rw [if_neg (fun reads => equals reads.1.2)]
          apply paramLoop_keyless
          simp [runs.free, equals]

/-- `GetParamValue` gives the value of the first readable parameter. -/
theorem getParamValue_eq_readValue {name : Text} (nameFree : '&' ∉ name)
    (target : Text) :
    getParamValue target name = readValue name noParam (paramsOf target) := by
  have runs : RunsInto [] noParam := .of_equals (by decide)
  unfold getParamValue paramsOf queryOf
  by_cases mark : '?' ∈ target
  · obtain ⟨path, query, rfl, pathFree⟩ := List.eq_append_cons_of_mem mark
    rw [TextStream.getline_delimited pathFree, dropWhile_bne_append pathFree]
    simpa using paramLoop_eq_readValue nameFree query [] noParam path [] runs
  · rw [TextStream.getline_last mark, dropWhile_bne_eq_nil mark]
    simp only
    rw [paramLoop_not_good rfl]
    have empty := paramLoop_eq_readValue nameFree [] [] noParam [] [] runs
    rw [List.append_nil, paramLoop_keyless List.not_mem_nil] at empty
    exact empty

/-! ## Where the readings agree -/

/-- The parameters of the query, cut at the first one of the name. -/
structure FirstNamed (name target : Text) (front : List Text) (param : Text)
    (back : List Text) : Prop where
  cut : paramsOf target = front ++ param :: back
  others : ∀ earlier ∈ front, keyOf earlier ≠ name
  named : keyOf param = name

private theorem FirstNamed.plainValue_eq {name target param : Text}
    {front back : List Text} (first : FirstNamed name target front param back) :
    plainValue target name = valueOf param := by
  have found : (paramsOf target).find? (fun param => keyOf param = name) =
      some param := by
    rw [List.find?_eq_some_iff_append]
    refine ⟨by simp [first.named], front, back, first.cut, ?_⟩
    intro earlier member
    simp [first.others earlier member]
  rw [plainValue, found]

private theorem readValue_others {name : Text} {params : List Text}
    (others : ∀ param ∈ params, keyOf param ≠ name) (before : Text) :
    readValue name before params = [] := by
  induction params generalizing before with
  | nil => rfl
  | cons param rest induction =>
      rw [readValue, if_neg fun reads => others param List.mem_cons_self reads.2]
      apply induction
      intro later member
      exact others later (List.mem_cons_of_mem param member)

/-- Parameters of other names only decide whether the next one is readable. -/
theorem readValue_append {name : Text} {front : List Text}
    (others : ∀ earlier ∈ front, keyOf earlier ≠ name) (before param : Text)
    (back : List Text) :
    readValue name before (front ++ param :: back) =
      if Readable (front.getLastD before) param ∧ keyOf param = name then
        valueOf param
      else readValue name param back := by
  induction front generalizing before with
  | nil => rfl
  | cons earlier front induction =>
      rw [List.cons_append, readValue,
        if_neg fun reads => others earlier List.mem_cons_self reads.2,
        induction fun later member =>
          others later (List.mem_cons_of_mem earlier member)]
      cases front with
      | nil => rfl
      | cons next rest => rfl

private theorem readValue_eq_find (name before : Text) (params : List Text) :
    readValue name before params =
      match (readableBehind before params).find?
        (fun next => keyOf next = name) with
      | some next => valueOf next
      | none => [] := by
  induction params generalizing before with
  | nil => rfl
  | cons param rest induction =>
      rw [readValue, readableBehind]
      by_cases readable : Readable before param
      · rw [if_pos readable]
        by_cases named : keyOf param = name
        · simp [readable, named]
        · simp [named, induction]
      · rw [if_neg readable, if_neg fun reads => readable reads.1, induction]

private theorem sameAsNext_iff {name param : Text} {back : List Text} :
    SameAsNext name param back ↔
      readValue name param back = valueOf param := by
  rw [readValue_eq_find, SameAsNext]
  split
  · rfl
  · exact eq_comm

private theorem FirstNamed.readValue_eq {name target param : Text}
    {front back : List Text} (first : FirstNamed name target front param back) :
    readValue name noParam (paramsOf target) =
      if Readable (front.getLastD noParam) param then valueOf param
      else readValue name param back := by
  rw [first.cut, readValue_append first.others]
  simp only [first.named, and_true]

/-- `GetParamValue` agrees with the plain reading if and only if the first
parameter of the name is readable, or has by chance the value of the next one that
is. -/
theorem getParamValue_plain_iff (target name : Text) (nameFree : '&' ∉ name) :
    getParamValue target name = plainValue target name ↔
      ∀ front param back, FirstNamed name target front param back →
        Readable (front.getLastD noParam) param ∨
          SameAsNext name param back := by
  rw [getParamValue_eq_readValue nameFree]
  constructor
  · intro agrees front param back first
    rw [first.readValue_eq, first.plainValue_eq] at agrees
    by_cases reads : Readable (front.getLastD noParam) param
    · exact .inl reads
    · rw [if_neg reads] at agrees
      exact .inr (sameAsNext_iff.mpr agrees)
  · intro reads
    cases found : (paramsOf target).find? (fun param => keyOf param = name) with
    | none =>
        rw [plainValue, found, readValue_others]
        intro param member
        simpa using List.find?_eq_none.mp found param member
    | some param =>
        obtain ⟨named, front, back, cut, others⟩ :=
          List.find?_eq_some_iff_append.mp found
        have first : FirstNamed name target front param back := by
          refine ⟨cut, fun earlier member => ?_, by simpa using named⟩
          simpa using others earlier member
        rw [first.plainValue_eq, first.readValue_eq]
        rcases reads front param back first with readable | same
        · rw [if_pos readable]
        · rw [sameAsNext_iff.mp same]
          exact ite_self _

def jwtTarget : Text := "/getdata?page=2&jwt=a.b.c".toList

/-- Each parameter with its equals sign is read. -/
theorem getParamValue_plain_sample :
    getParamValue jwtTarget "jwt".toList = plainValue jwtTarget "jwt".toList := by
  refine (getParamValue_plain_iff jwtTarget "jwt".toList (by decide)).mpr ?_
  intro front param back first
  have cut : ["page=2".toList, "jwt=a.b.c".toList] = front ++ param :: back :=
    first.cut
  rcases front with _ | ⟨page, _ | ⟨other, front⟩⟩
  · cases cut
    exact absurd first.named (by decide)
  · cases cut
    exact .inl (by decide)
  · simp at cut

/-- A parameter without a value takes the token with it. -/
theorem getParamValue_skips_token :
    getParamValue "/getdata?debug&jwt=a.b.c".toList "jwt".toList = [] ∧
      plainValue "/getdata?debug&jwt=a.b.c".toList "jwt".toList =
        "a.b.c".toList := by
  rw [getParamValue_eq_readValue (by decide)]
  decide

end KosCeExtra.Web
