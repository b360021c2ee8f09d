import ConnectionProfile.Options

/-!
# Arguments that stand alone

An item is an argument that no other belongs to: an option with its value behind an equals sign, or
the flag. Whatever the value looks like, an item is taken for what it is (`classify_items`). No
spelling has an equals sign, so the first one ends the name of the option.
-/

namespace ConnectionProfile.Options

/-- The spelling that is not cut short. -/
def OptionName.long : OptionName → Text
  | .help => "--help"
  | .config => "--config"
  | .homeServer => "--home-server-url"
  | .identityServer => "--identity-server-url"
  | .pin => "--pin"
  | .userId => "--user-id"
  | .deviceId => "--device-id"
  | .accessToken => "--access-token"
  | .logLevel => "--log-level"
  | .richLogs => "--rich-logs"

/-- Two hyphens would be no value. -/
inductive Item where
  | assigned (name : OptionName) (value : Text) (takesValue : name.isFlag = false)
      (isValue : value ≠ "--")
  | richLogs
  deriving DecidableEq

namespace Item

def text : Item → Text
  | .assigned name value _ _ => name.long ++ "=" ++ value
  | .richLogs => OptionName.richLogs.long

def name : Item → OptionName
  | .assigned name _ _ _ => name
  | .richLogs => .richLogs

def value? : Item → Option Text
  | .assigned _ value _ _ => some value
  | .richLogs => none

def argument (i : Item) : Argument := .option i.name i.value?

end Item

-- ---------------------------------------------------------------------------
-- The table of spellings
-- ---------------------------------------------------------------------------

theorem lookup_long (name : OptionName) : spellings.lookup name.long = some name := by
  cases name <;> rfl

theorem isLong_long (name : OptionName) : isLong name.long = true := by
  cases name <;> rfl

theorem sign_notMem_long (name : OptionName) : ('=' : CodePoint) ∉ name.long := by
  cases name <;> decide

theorem sign_notMem_spelling : ∀ s ∈ spellings, ('=' : CodePoint) ∉ s.1 := by decide

theorem lookup_of_sign_mem {t : Text} (h : ('=' : CodePoint) ∈ t) : spellings.lookup t = none := by
  rw [List.lookup_eq_none_iff]
  intro s hs
  rw [bne_iff_ne]
  rintro rfl
  exact sign_notMem_spelling s hs h

-- ---------------------------------------------------------------------------
-- Classification
-- ---------------------------------------------------------------------------

theorem isLong_iff {t : Text} : isLong t = true ↔ ∃ rest : Text, t = "--" ++ rest := by
  simp only [isLong, Text.startsWith, Option.isSome_iff_exists, Text.after?_eq_some]

theorem isLong_append {t : Text} (h : isLong t = true) (u : Text) : isLong (t ++ u) = true := by
  obtain ⟨rest, rfl⟩ := isLong_iff.1 h
  exact isLong_iff.2 ⟨rest ++ u, List.append_assoc ..⟩

theorem length_of_isLong {t : Text} (h : isLong t = true) : t.length ≠ 1 := by
  obtain ⟨rest, rfl⟩ := isLong_iff.1 h
  simp [Text.ofString]

/-- The short spelling of the help flag has one hyphen. -/
theorem helpTail?_of_isLong {t : Text} (h : isLong t = true) : helpTail? t = none := by
  obtain ⟨rest, rfl⟩ := isLong_iff.1 h
  rfl

theorem classifyOne_of_isLong {t : Text} (h : isLong t = true) :
    classifyOne t = classifyOption t := by
  obtain ⟨rest, rfl⟩ := isLong_iff.1 h
  rfl

theorem sign_mem_assigned (name : OptionName) (value : Text) :
    ('=' : CodePoint) ∈ name.long ++ "=" ++ value :=
  List.mem_append_left _ (List.mem_append_right _ List.mem_cons_self)

theorem isLong_assigned (name : OptionName) (value : Text) :
    isLong (name.long ++ "=" ++ value) = true :=
  isLong_append (isLong_append (isLong_long name) _) _

theorem classifyOption_assigned (name : OptionName) (value : Text) :
    classifyOption (name.long ++ "=" ++ value) = .ok (.option name (some value)) := by
  have hl := isLong_assigned name value
  have hc : (name.long ++ "=" ++ value).cut? '=' = some (name.long, value) :=
    Text.cut?_eq_some.2 ⟨List.append_assoc .., sign_notMem_long name⟩
  -- The whole argument is no spelling, and what stands before the sign is one.
  rw [classifyOption, lookup_of_sign_mem (sign_mem_assigned name value),
    if_neg (length_of_isLong hl), helpTail?_of_isLong hl, hc]
  simp only [Option.bind_some, lookup_long, Option.map_some]

theorem isLong_text (i : Item) : isLong i.text = true := by
  cases i with
  | assigned name value => exact isLong_assigned name value
  | richLogs => rfl

theorem classifyOne_text (i : Item) : classifyOne i.text = .ok i.argument := by
  rw [classifyOne_of_isLong (isLong_text i)]
  cases i with
  | assigned name value => exact classifyOption_assigned name value
  | richLogs => rfl

theorem text_ne_border (i : Item) : i.text ≠ "--" := by
  cases i with
  | assigned name value =>
    intro h
    have hs : ('=' : CodePoint) ∈ ("--" : Text) := h ▸ sign_mem_assigned name value
    exact absurd hs (by decide)
  | richLogs => decide

theorem classify_items (items : List Item) :
    classify (items.map Item.text) = .ok (items.map Item.argument) := by
  induction items with
  | nil => rfl
  | cons i items ih =>
    rw [List.map_cons, classify, if_neg (text_ne_border i), classifyOne_text, ih]
    rfl

end ConnectionProfile.Options
