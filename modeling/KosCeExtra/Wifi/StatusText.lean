import KosCeExtra.Wifi.ConnectionManager

/-!
# Looking up a property in a status text

A status text is made of lines that are joined with newlines, and some of them
give a property a value.  `GetProperty` finds the first one that gives the wanted
property a value, whatever the others hold and whether or not the last line is
ended.
-/

namespace KosCeExtra.Wifi

/-- A line of a status text: one without an equals sign, or a key with a value
that may hold more of them. -/
inductive StatusLine where
  | plain (text : Text) (noEquals : '=' ∉ text) (noNewline : '\n' ∉ text)
  | property (key value : Text) (noEquals : '=' ∉ key)
      (keyNoNewline : '\n' ∉ key) (valueNoNewline : '\n' ∉ value)

namespace StatusLine

def text : StatusLine → Text
  | .plain text _ _ => text
  | .property key value _ _ _ => key ++ '=' :: value

def entry : StatusLine → Option (Text × Text)
  | .plain _ _ _ => none
  | .property key value _ _ _ => some (key, value)

/-- The line gives the property a value. -/
def Gives (line : StatusLine) (property value : Text) : Prop :=
  line.entry = some (property, value)

private theorem text_noNewline (line : StatusLine) : '\n' ∉ line.text := by
  cases line with
  | plain text noEquals noNewline => exact noNewline
  | property key value noEquals keyNoNewline valueNoNewline =>
      simp [text, keyNoNewline, valueNoNewline]

private theorem findIdx?_equals_eq_none {text : Text} (noEquals : '=' ∉ text) :
    text.findIdx? (· == '=') = none := by
  apply List.findIdx?_eq_none_iff.mpr
  intro symbol member
  apply beq_false_of_ne
  intro equals
  exact noEquals (equals ▸ member)

private theorem cutAtEquals_text (line : StatusLine) :
    cutAtEquals line.text = line.entry := by
  cases line with
  | plain text noEquals noNewline =>
      simp only [cutAtEquals, StatusLine.text, entry,
        findIdx?_equals_eq_none noEquals]
  | property key value noEquals keyNoNewline valueNoNewline =>
      have place : (key ++ '=' :: value).findIdx? (· == '=') =
          some key.length := by
        simp [List.findIdx?_append, findIdx?_equals_eq_none noEquals,
          List.findIdx?_cons]
      simp [cutAtEquals, StatusLine.text, entry, place]

theorem Gives.noEquals {line : StatusLine} {property value : Text}
    (gives : line.Gives property value) : '=' ∉ property := by
  cases line with
  | plain text noEquals noNewline => cases gives
  | property key value noEquals keyNoNewline valueNoNewline =>
      cases gives
      exact noEquals

end StatusLine

/-- The lines joined with newlines, with or without one behind the last. -/
def statusText (lines : List StatusLine) (final : Bool) : Text :=
  ['\n'].intercalate (lines.map StatusLine.text) ++
    if final then ['\n'] else []

private theorem joined_properties (lines : List StatusLine) :
    ((['\n'].intercalate (lines.map StatusLine.text)).splitOn '\n').filterMap
      cutAtEquals = lines.filterMap StatusLine.entry := by
  by_cases empty : lines = []
  · subst empty
    rfl
  · have separate : ∀ text ∈ lines.map StatusLine.text, '\n' ∉ text := by
      intro text member
      obtain ⟨line, -, rfl⟩ := List.mem_map.mp member
      exact line.text_noNewline
    have nonempty : lines.map StatusLine.text ≠ [] := by
      intro none
      exact empty (List.map_eq_nil_iff.mp none)
    have entries : cutAtEquals ∘ StatusLine.text = StatusLine.entry :=
      funext StatusLine.cutAtEquals_text
    rw [List.splitOn_intercalate '\n' separate nonempty, List.filterMap_map,
      entries]

/-- The properties of a status text are those its lines give. -/
theorem statusProperties_statusText (lines : List StatusLine) (final : Bool) :
    statusProperties (statusText lines final) =
      lines.filterMap StatusLine.entry := by
  cases final with
  | false =>
      simp only [statusProperties, statusText, Bool.false_eq_true, if_false,
        List.append_nil]
      exact joined_properties lines
  | true =>
      -- an ended last line leaves an empty piece behind it
      simp only [statusProperties, statusText, if_true]
      rw [List.splitOn_append_cons_self, List.filterMap_append,
        joined_properties]
      exact List.append_nil _

theorem lookup_entries_none {lines : List StatusLine} {property : Text}
    (others : ∀ line ∈ lines, ∀ value, ¬ line.Gives property value) :
    (lines.filterMap StatusLine.entry).lookup property = none := by
  apply List.lookup_eq_none_iff.mpr
  intro found member
  obtain ⟨line, listed, gives⟩ := List.mem_filterMap.mp member
  apply bne_iff_ne.mpr
  intro same
  apply others line listed found.2
  rw [StatusLine.Gives, gives, same]

private theorem lookup_entries_first {before after : List StatusLine}
    {line : StatusLine} {property value : Text}
    (gives : line.Gives property value)
    (others : ∀ earlier ∈ before, ∀ other, ¬ earlier.Gives property other) :
    ((before ++ line :: after).filterMap StatusLine.entry).lookup property =
      some value := by
  rw [List.filterMap_append, List.lookup_append, lookup_entries_none others,
    Option.none_or, List.filterMap_cons_some gives]
  exact List.lookup_cons_self

/-- `GetProperty` returns the value of the first line that gives the property one,
and the empty string if none does.  A name with an equals sign in it is never
found. -/
theorem getProperty_first_match (lines : List StatusLine) (final : Bool)
    (property : Text) :
    (∀ before line after value, lines = before ++ line :: after →
      line.Gives property value →
      (∀ earlier ∈ before, ∀ other, ¬ earlier.Gives property other) →
      getProperty (statusText lines final) property = value) ∧
    ((∀ line ∈ lines, ∀ value, ¬ line.Gives property value) →
      getProperty (statusText lines final) property = []) ∧
    ('=' ∈ property → getProperty (statusText lines final) property = []) := by
  have found : getProperty (statusText lines final) property =
      ((lines.filterMap StatusLine.entry).lookup property).getD [] := by
    rw [getProperty_eq, statusProperty, statusProperties_statusText]
  have missing : (∀ line ∈ lines, ∀ value, ¬ line.Gives property value) →
      getProperty (statusText lines final) property = [] := by
    intro others
    rw [found, lookup_entries_none others, Option.getD_none]
  refine ⟨?_, missing, ?_⟩
  · intro before line after value split gives others
    rw [found, split, lookup_entries_first gives others, Option.getD_some]
  · intro equals
    apply missing
    intro line member value gives
    exact gives.noEquals equals

end KosCeExtra.Wifi
