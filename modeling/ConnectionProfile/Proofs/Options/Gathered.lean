import ConnectionProfile.Proofs.Options.Items
import ConnectionProfile.Proofs.Pin
import ConnectionProfile.Run

/-!
# Options that are given several times

What a list of items comes to is computed from the values of every option alone: the last one
counts, and pins are gathered. `parse_gathers` says that this is what the arguments are parsed to,
unless a pin or a level is refused, and so the items of different options may be mixed at will.
-/

namespace ConnectionProfile

namespace Setting

variable {α : Type}

/-- The last value that was given. -/
def ofLast (as : List α) : Setting α :=
  match as.getLast? with
  | some a => .given a
  | none => .unset

theorem ofLast_concat (as : List α) (a : α) : ofLast (as ++ [a]) = .given a := by
  rw [ofLast, List.getLast?_concat]

end Setting

namespace Options

-- ---------------------------------------------------------------------------
-- What items come to
-- ---------------------------------------------------------------------------

/-- The items of one option. -/
def ofOption (name : OptionName) (items : List Item) : List Item :=
  items.filter (·.name = name)

def values (name : OptionName) (items : List Item) : List Text :=
  (ofOption name items).filterMap Item.value?

/-- Pins that are given take the place of no pins at all. -/
def pinsOf (texts : List Text) : Option (List (Option Pin)) :=
  if texts = [] then none else some (texts.map Pin.ofArgument?)

def levelOf? (name : Text) : Option Level := levelChoices.find? (·.name = name)

def gathered (items : List Item) : Options where
  config := .ofLast ((values .config items).map Path.ofText)
  homeServer := .ofLast (values .homeServer items)
  identityServer := .ofLast (values .identityServer items)
  pins := pinsOf (values .pin items)
  userId := .ofLast (values .userId items)
  deviceId := .ofLast (values .deviceId items)
  accessToken := .ofLast (values .accessToken items)
  logLevel := levelOf? ((values .logLevel items).getLast?.getD "INFO")
  richLogs := ofOption .richLogs items ≠ []

/-- Only pins and levels are looked at. -/
structure AreAccepted (items : List Item) : Prop where
  pins : ∀ value ∈ values .pin items, ∃ p, Pin.ofArgument value = .ok p
  levels : ∀ value ∈ values .logLevel items, ∃ level ∈ levelChoices, level.name = value

/-- The items of every option are the same in the same order. -/
def SameOrders (items others : List Item) : Prop :=
  ∀ name, ofOption name items = ofOption name others

theorem SameOrders.values {items others : List Item} (h : SameOrders items others)
    (name : OptionName) : values name items = values name others := by
  rw [Options.values, Options.values, h]

theorem SameOrders.gathered {items others : List Item} (h : SameOrders items others) :
    gathered items = gathered others := by
  simp only [Options.gathered, h.values, h .richLogs]

theorem SameOrders.areAccepted {items others : List Item} (h : SameOrders items others) :
    AreAccepted items ↔ AreAccepted others := by
  constructor
  · rintro ⟨hp, hl⟩
    rw [h.values] at hp hl
    exact ⟨hp, hl⟩
  · rintro ⟨hp, hl⟩
    rw [← h.values] at hp hl
    exact ⟨hp, hl⟩

-- ---------------------------------------------------------------------------
-- One item more
-- ---------------------------------------------------------------------------

/-- What is wrong with the value of an item. -/
def Item.complaint? : Item → Option UsageError
  | .assigned .pin value _ _ =>
    if (Pin.ofArgument? value).isSome then none else some (.badPin value)
  | .assigned .logLevel value _ _ =>
    if (levelOf? value).isSome then none else some (.badLevel value)
  | _ => none

variable {seen items : List Item} {name : OptionName} {value : Text}

theorem ofOption_concat (name : OptionName) (seen : List Item) (i : Item) :
    ofOption name (seen ++ [i]) =
      if i.name = name then ofOption name seen ++ [i] else ofOption name seen := by
  rw [ofOption, List.filter_append]
  by_cases h : i.name = name <;> simp [ofOption, h]

theorem values_concat (name : OptionName) (seen : List Item) (i : Item) :
    values name (seen ++ [i]) =
      if i.name = name then values name seen ++ i.value?.toList else values name seen := by
  rw [values, ofOption_concat]
  split
  · rw [List.filterMap_append]
    cases i <;> rfl
  · rfl

theorem pinsOf_concat (texts : List Text) (t : Text) :
    pinsOf (texts ++ [t]) = some ((pinsOf texts).getD [] ++ [Pin.ofArgument? t]) := by
  cases texts <;> simp [pinsOf]

/-- The values of an option take in one value more when it is set. -/
theorem set_gathered (seen : List Item) (takesValue : name.isFlag = false)
    (isValue : value ≠ "--") :
    (gathered seen).set value name =
      match (Item.assigned name value takesValue isValue).complaint? with
      | some cause => .error cause
      | none => .ok (gathered (seen ++ [.assigned name value takesValue isValue])) := by
  cases name with
  | help | richLogs => cases takesValue
  | pin =>
    rw [set, Item.complaint?]
    cases hp : Pin.ofArgument? value with
    | none => rfl
    | some p =>
      simp [addPin, gathered, values_concat, ofOption_concat, Item.name, Item.value?,
        pinsOf_concat, hp]
  | logLevel =>
    rw [set, ← levelOf?, Item.complaint?]
    cases hl : levelOf? value with
    | none => rfl
    | some level =>
      simp [gathered, values_concat, ofOption_concat, Item.name, Item.value?, hl]
  | _ =>
    simp [set, Item.complaint?, gathered, values_concat, ofOption_concat, Item.name, Item.value?,
      Setting.ofLast_concat]

theorem gathered_concat_richLogs (seen : List Item) :
    gathered (seen ++ [.richLogs]) = { gathered seen with richLogs := true } := by
  simp [gathered, values_concat, ofOption_concat, Item.name]

theorem run_item (seen : List Item) (i : Item) (rest : List Argument) :
    run (gathered seen) [] (i.argument :: rest) =
      match i.complaint? with
      | some cause => .error cause
      | none => run (gathered (seen ++ [i])) [] rest := by
  cases i with
  | assigned name value takesValue isValue =>
    rw [Item.argument, Item.name, Item.value?, run, takesValue, if_neg Bool.false_ne_true, assign,
      if_neg isValue, set_gathered seen takesValue isValue]
    cases (Item.assigned name value takesValue isValue).complaint? <;> rfl
  | richLogs =>
    rw [gathered_concat_richLogs]
    rfl

/-- Every item is given to what the items before it came to. -/
theorem run_items (seen items : List Item) :
    run (gathered seen) [] (items.map Item.argument) =
      match items.findSome? Item.complaint? with
      | some cause => .error cause
      | none => .ok (.options (gathered (seen ++ items))) := by
  induction items generalizing seen with
  | nil =>
    rw [List.append_nil]
    rfl
  | cons i items ih =>
    rw [List.map_cons, run_item, List.findSome?_cons]
    cases i.complaint? with
    | some cause => rfl
    | none => simp only [ih, List.append_assoc, List.cons_append, List.nil_append]

theorem parse_items (items : List Item) :
    parse (items.map Item.text) =
      match items.findSome? Item.complaint? with
      | some cause => .error cause
      | none => .ok (.options (gathered items)) := by
  rw [parse, classify_items]
  exact run_items [] items

-- ---------------------------------------------------------------------------
-- Accepted items
-- ---------------------------------------------------------------------------

theorem forall_values {P : Text → Prop} : (∀ value ∈ values name items, P value) ↔
    ∀ i ∈ items, ∀ value, i.value? = some value → i.name = name → P value := by
  simp only [values, ofOption, List.mem_filterMap, List.mem_filter, decide_eq_true_eq]
  constructor
  · intro h i hi value hv hn
    exact h value ⟨i, ⟨hi, hn⟩, hv⟩
  · rintro h value ⟨i, ⟨hi, hn⟩, hv⟩
    exact h i hi value hv hn

theorem complaint?_eq_none {i : Item} : i.complaint? = none ↔ ∀ value, i.value? = some value →
    (i.name = .pin → ∃ p, Pin.ofArgument value = .ok p) ∧
      (i.name = .logLevel → ∃ level ∈ levelChoices, level.name = value) := by
  cases i with
  | richLogs => simp [Item.complaint?, Item.value?]
  | assigned name value =>
    cases name with
    | pin =>
      simp [Item.complaint?, Item.name, Item.value?, Pin.ofArgument_ok_iff_some,
        Option.isSome_iff_exists]
    | logLevel => simp [Item.complaint?, Item.name, Item.value?, levelOf?, List.find?_isSome]
    | _ => simp [Item.complaint?, Item.name, Item.value?]

theorem areAccepted_iff : AreAccepted items ↔ items.findSome? Item.complaint? = none := by
  simp only [List.findSome?_eq_none_iff, complaint?_eq_none]
  constructor
  · rintro ⟨hp, hl⟩ i hi value hv
    exact ⟨forall_values.1 hp i hi value hv, forall_values.1 hl i hi value hv⟩
  · intro h
    exact ⟨forall_values.2 fun i hi value hv => (h i hi value hv).1,
      forall_values.2 fun i hi value hv => (h i hi value hv).2⟩

-- ---------------------------------------------------------------------------
-- Parsing
-- ---------------------------------------------------------------------------

theorem parse_of_accepted (h : AreAccepted items) :
    parse (items.map Item.text) = .ok (.options (gathered items)) := by
  rw [parse_items, areAccepted_iff.1 h]

theorem parse_of_not_accepted (h : ¬AreAccepted items) :
    ∃ cause, parse (items.map Item.text) = .error cause := by
  rw [areAccepted_iff, ← ne_eq, Option.ne_none_iff_exists'] at h
  obtain ⟨cause, hc⟩ := h
  exact ⟨cause, by rw [parse_items, hc]⟩

/-- Of every option the last value counts, and every pin does. A pin or a level that is refused ends
the program with status 2. How the items of different options are mixed makes no difference. -/
theorem parse_gathers (items : List Item) :
    (AreAccepted items → parse (items.map Item.text) = .ok (.options (gathered items))) ∧
    (¬AreAccepted items → (∃ cause, parse (items.map Item.text) = .error cause) ∧
      ∀ read console token,
        (Run.ofArguments read console (items.map Item.text) token).ending.status? = some 2) ∧
    ∀ others, SameOrders items others →
      (parse (others.map Item.text)).toOption = (parse (items.map Item.text)).toOption := by
  refine ⟨parse_of_accepted, fun h => ?_, fun others hs => ?_⟩
  · obtain ⟨cause, hc⟩ := parse_of_not_accepted h
    refine ⟨⟨cause, hc⟩, fun read console token => ?_⟩
    rw [Run.ofArguments, hc]
    rfl
  · by_cases h : AreAccepted items
    · rw [parse_of_accepted h, parse_of_accepted (hs.areAccepted.1 h), hs.gathered]
    · obtain ⟨cause, hc⟩ := parse_of_not_accepted h
      obtain ⟨other, ho⟩ := parse_of_not_accepted (mt hs.areAccepted.2 h)
      rw [hc, ho]
      rfl

/-- Values may look like options, and they may be empty. -/
theorem parse_gathers_lookalikes :
    parse ["--user-id=--pin=x", "--pin=h=k=", "--rich-logs", "--user-id=", "--pin=a=b"] =
      .ok (.options { initial with
        userId := .given [], pins := some [some ⟨"h", "k="⟩, some ⟨"a", "b"⟩], richLogs := true }) ∧
    (parse ["--rich-logs", "--pin=h=k=", "--pin=a=b", "--user-id=--pin=x", "--user-id="]).toOption =
      (parse ["--user-id=--pin=x", "--pin=h=k=", "--rich-logs", "--user-id=",
        "--pin=a=b"]).toOption ∧
    ∀ console, (Run.ofArguments (fun _ => .error .missing) console ["--pin=h=", "--rich-logs"]
      none).ending.status? = some 2 := by
  obtain ⟨ha, -, hs⟩ := parse_gathers [.assigned .userId "--pin=x" rfl (by decide),
    .assigned .pin "h=k=" rfl (by decide), .richLogs, .assigned .userId [] rfl (by decide),
    .assigned .pin "a=b" rfl (by decide)]
  have hm := hs [.richLogs, .assigned .pin "h=k=" rfl (by decide),
    .assigned .pin "a=b" rfl (by decide), .assigned .userId "--pin=x" rfl (by decide),
    .assigned .userId [] rfl (by decide)] fun name => by cases name <;> rfl
  obtain ⟨-, hr, -⟩ := parse_gathers [.assigned .pin "h=" rfl (by decide), .richLogs]
  exact ⟨ha (areAccepted_iff.2 rfl), hm, fun console =>
    (hr fun h => nomatch areAccepted_iff.1 h).2 _ console _⟩

end Options

end ConnectionProfile
