/-
This file shows that the values that are built from events have distinct keys, and that a value with
distinct keys is built again from its own events.
-/

import HostTree.Proofs.Entries.Insertion
import HostTree.Value.Event

namespace HostTree.Value

/-- No mapping has a key twice, at any depth. -/
inductive HasDistinctKeys : Value → Prop where
  | null : HasDistinctKeys null
  | boolean (truth : Bool) : HasDistinctKeys (boolean truth)
  | integer (number : Int64) : HasDistinctKeys (integer number)
  | float (number : Float) : HasDistinctKeys (float number)
  | string (content : String) : HasDistinctKeys (string content)
  | sequence {items : List Value} (each : ∀ item ∈ items, HasDistinctKeys item) :
    HasDistinctKeys (sequence items)
  | mapping {entries : List (String × Value)} (distinct : Entries.Distinct entries)
    (each : ∀ entry ∈ entries, HasDistinctKeys entry.2) : HasDistinctKeys (mapping entries)

/-- Bytes are reported somewhere, perhaps in a key. -/
inductive Event.HasBytes : Event → Prop where
  | bytes (content : ByteArray) : HasBytes (.bytes content)
  | present {content : Event} (inside : HasBytes content) : HasBytes (.present content)
  | sequence {items : List Event} {item : Event} (among : item ∈ items) (inside : HasBytes item) :
    HasBytes (.sequence items)
  | key {entries : List (Event × Event)} {entry : Event × Event} (among : entry ∈ entries)
    (inside : HasBytes entry.1) : HasBytes (.mapping entries)
  | content {entries : List (Event × Event)} {entry : Event × Event} (among : entry ∈ entries)
    (inside : HasBytes entry.2) : HasBytes (.mapping entries)

mutual

/-- The event stands for the value. In a mapping each key counts as its text, stays at its first
place and has its last content. -/
inductive Event.Denotes : Event → Value → Prop where
  | unit : Denotes .unit .null
  | absent : Denotes .absent .null
  | present {content : Event} {value : Value} (inside : Denotes content value) :
    Denotes (.present content) value
  | boolean (truth : Bool) : Denotes (.boolean truth) (.boolean truth)
  | signed (number : Int64) : Denotes (.signed number) (.integer number)
  | unsigned (number : UInt64) : Denotes (.unsigned number) (ofUnsigned number)
  | float (number : Float) : Denotes (.float number) (.float number)
  | character (content : Char) : Denotes (.character content) (.string (String.singleton content))
  | text (content : String) : Denotes (.text content) (.string content)
  | sequence {items : List Event} {values : List Value} (each : DenoteAll items values) :
    Denotes (.sequence items) (.sequence values)
  | mapping {entries : List (Event × Event)} {written merged : List (String × Value)}
    (each : DenoteEntries entries written) (merges : Entries.Merges written merged) :
    Denotes (.mapping entries) (.mapping merged)

/-- A list stands for the values of its items, in their order. -/
inductive Event.DenoteAll : List Event → List Value → Prop where
  | nil : DenoteAll [] []
  | cons {item : Event} {rest : List Event} {value : Value} {others : List Value}
    (first : Denotes item value) (later : DenoteAll rest others) :
    DenoteAll (item :: rest) (value :: others)

/-- A mapping stands for the texts of its keys and the values of its contents, in their order. -/
inductive Event.DenoteEntries : List (Event × Event) → List (String × Value) → Prop where
  | nil : DenoteEntries [] []
  | cons {entry : Event × Event} {rest : List (Event × Event)} {key content : Value}
    {others : List (String × Value)} (name : Denotes entry.1 key) (value : Denotes entry.2 content)
    (later : DenoteEntries rest others) :
    DenoteEntries (entry :: rest) ((key.text, content) :: others)

end

section

variable {item key content : Event} {items : List Event} {rest : List (Event × Event)}

theorem ofEvents?_cons : ofEvents? (item :: items) =
    (ofEvent? item).bind fun value => (ofEvents? items).map fun others => value :: others := by
  rw [ofEvents?]
  cases ofEvent? item <;> cases ofEvents? items <;> rfl

theorem ofEventEntries?_cons {collected : List (String × Value)} :
    ofEventEntries? ((key, content) :: rest) collected =
      (ofEvent? key).bind fun keyValue => (ofEvent? content).bind fun contentValue =>
        ofEventEntries? rest (Entries.insert keyValue.text contentValue collected) := rfl

end

mutual

/-- Only bytes have no value. -/
theorem ofEvent?_eq_none_iff (event : Event) : ofEvent? event = none ↔ event.HasBytes := by
  cases event with
  | present content =>
    rw [ofEvent?, ofEvent?_eq_none_iff content]
    constructor
    · exact .present
    · rintro ⟨⟩
      assumption
  | bytes content => exact ⟨fun _ => .bytes content, fun _ => rfl⟩
  | sequence items =>
    rw [ofEvent?, Option.map_eq_none_iff, ofEvents?_eq_none_iff items]
    constructor
    · rintro ⟨item, among, inside⟩
      exact .sequence among inside
    · intro hasBytes
      cases hasBytes with
      | sequence among inside => exact ⟨_, among, inside⟩
  | mapping entries =>
    rw [ofEvent?, Option.map_eq_none_iff, ofEventEntries?_eq_none_iff entries]
    constructor
    · rintro ⟨entry, among, inside | inside⟩
      · exact .key among inside
      · exact .content among inside
    · intro hasBytes
      cases hasBytes with
      | key among inside => exact ⟨_, among, .inl inside⟩
      | content among inside => exact ⟨_, among, .inr inside⟩
  | _ =>
    constructor
    · rintro ⟨⟩
    · rintro ⟨⟩
termination_by structural event

/-- A list has no value exactly if there are bytes in one of its items. -/
theorem ofEvents?_eq_none_iff (items : List Event) :
    ofEvents? items = none ↔ ∃ item ∈ items, item.HasBytes := by
  cases items with
  | nil => simp [ofEvents?]
  | cons item rest =>
    rw [List.exists_mem_cons_iff, ← ofEvent?_eq_none_iff item, ← ofEvents?_eq_none_iff rest,
      ofEvents?_cons]
    cases ofEvent? item <;> simp
termination_by structural items

/-- A mapping has no value exactly if there are bytes in one of its entries. -/
theorem ofEventEntries?_eq_none_iff (entries : List (Event × Event))
    (collected : List (String × Value)) :
    ofEventEntries? entries collected = none ↔
      ∃ entry ∈ entries, entry.1.HasBytes ∨ entry.2.HasBytes := by
  match entries with
  | [] => simp [ofEventEntries?]
  | (key, content) :: rest =>
    rw [List.exists_mem_cons_iff, ← ofEvent?_eq_none_iff key, ← ofEvent?_eq_none_iff content,
      ofEventEntries?_cons]
    cases ofEvent? key with
    | none => simp
    | some keyValue =>
      cases ofEvent? content with
      | none => simp
      | some contentValue => simpa using ofEventEntries?_eq_none_iff rest _
termination_by structural entries

end

mutual

/-- The value of an event is what the event stands for. -/
theorem ofEvent?_eq_some_iff (event : Event) (value : Value) :
    ofEvent? event = some value ↔ event.Denotes value := by
  cases event with
  | present content =>
    rw [ofEvent?, ofEvent?_eq_some_iff content]
    constructor
    · exact .present
    · rintro ⟨⟩
      assumption
  | bytes content =>
    constructor
    · rintro ⟨⟩
    · rintro ⟨⟩
  | sequence items =>
    have each := ofEvents?_eq_some_iff items
    rw [ofEvent?, Option.map_eq_some_iff]
    constructor
    · rintro ⟨values, read, rfl⟩
      exact .sequence ((each values).mp read)
    · intro denotes
      cases denotes with
      | sequence denoteAll => exact ⟨_, (each _).mpr denoteAll, rfl⟩
  | mapping entries =>
    have each := ofEventEntries?_eq_some_iff entries []
    rw [ofEvent?, Option.map_eq_some_iff]
    constructor
    · rintro ⟨merged, read, rfl⟩
      obtain ⟨written, denoteEntries, rfl⟩ := (each merged).mp read
      exact .mapping denoteEntries (Entries.merges_ofList written)
    · intro denotes
      cases denotes with
      | mapping denoteEntries merges =>
        exact ⟨_, (each _).mpr ⟨_, denoteEntries, merges.eq_ofList.symm⟩, rfl⟩
  | _ =>
    constructor
    · rintro ⟨⟩
      constructor
    · rintro ⟨⟩
      rfl
termination_by structural event

/-- The values of a list are what the list stands for. -/
theorem ofEvents?_eq_some_iff (items : List Event) (values : List Value) :
    ofEvents? items = some values ↔ Event.DenoteAll items values := by
  cases items with
  | nil =>
    constructor
    · rintro ⟨⟩
      exact .nil
    · rintro ⟨⟩
      rfl
  | cons item rest =>
    have first := ofEvent?_eq_some_iff item
    have later := ofEvents?_eq_some_iff rest
    simp only [ofEvents?_cons, Option.bind_eq_some_iff, Option.map_eq_some_iff, first, later]
    constructor
    · rintro ⟨value, now, others, denoteAll, rfl⟩
      exact .cons now denoteAll
    · rintro ⟨⟩
      exact ⟨_, ‹_›, _, ‹_›, rfl⟩
termination_by structural items

/-- The entries are inserted one after the other. -/
theorem ofEventEntries?_eq_some_iff (entries : List (Event × Event))
    (collected merged : List (String × Value)) :
    ofEventEntries? entries collected = some merged ↔
      ∃ written, Event.DenoteEntries entries written ∧
        written.foldl (fun collected entry => Entries.insert entry.1 entry.2 collected) collected =
          merged := by
  match entries with
  | [] =>
    constructor
    · rintro ⟨⟩
      exact ⟨[], .nil, rfl⟩
    · rintro ⟨written, ⟨⟩, rfl⟩
      rfl
  | (key, content) :: rest =>
    have name := ofEvent?_eq_some_iff key
    have value := ofEvent?_eq_some_iff content
    have later := ofEventEntries?_eq_some_iff rest
    simp only [ofEventEntries?_cons, Option.bind_eq_some_iff, name, value, later]
    constructor
    · rintro ⟨keyValue, named, contentValue, valued, written, denoteEntries, rfl⟩
      exact ⟨_, .cons named valued denoteEntries, rfl⟩
    · rintro ⟨written, denoteEntries, rfl⟩
      cases denoteEntries with
      | cons named valued others => exact ⟨_, named, _, valued, _, others, rfl⟩
termination_by structural entries

end

theorem hasDistinctKeys_ofUnsigned (number : UInt64) : (ofUnsigned number).HasDistinctKeys := by
  rw [ofUnsigned]
  split
  · exact .integer _
  · exact .string _

namespace Event

/-- Each merged entry is one of the written ones. -/
theorem hasDistinctKeys_mapping {written merged : List (String × Value)}
    (merges : Entries.Merges written merged)
    (each : ∀ entry ∈ written, entry.2.HasDistinctKeys) :
    (Value.mapping merged).HasDistinctKeys := by
  have distinct : Entries.Distinct merged := by
    rw [merges.eq_ofList]
    exact Entries.distinct_ofList written
  refine .mapping distinct ?_
  rintro ⟨name, content⟩ among
  have found : Entries.get? name written.reverse = some content := by
    rw [← merges.contents]
    exact (Entries.get?_eq_some_iff distinct).mpr among
  exact each _ (List.mem_reverse.mp (Entries.mem_of_get? found))

mutual

/-- What an event stands for has distinct keys at each depth. -/
theorem Denotes.hasDistinctKeys : {event : Event} → {value : Value} → event.Denotes value →
    value.HasDistinctKeys
  | _, _, .unit => .null
  | _, _, .absent => .null
  | _, _, .present inside => inside.hasDistinctKeys
  | _, _, .boolean truth => .boolean truth
  | _, _, .signed number => .integer number
  | _, _, .unsigned number => hasDistinctKeys_ofUnsigned number
  | _, _, .float number => .float number
  | _, _, .character _ => .string _
  | _, _, .text content => .string content
  | _, _, .sequence each => .sequence each.hasDistinctKeys
  | _, _, .mapping each merges => hasDistinctKeys_mapping merges each.hasDistinctKeys

/-- The values of a list have distinct keys at each depth. -/
theorem DenoteAll.hasDistinctKeys : {items : List Event} → {values : List Value} →
    DenoteAll items values → ∀ value ∈ values, value.HasDistinctKeys
  | _, _, .nil => by simp
  | _, _, .cons first later =>
    List.forall_mem_cons.mpr ⟨first.hasDistinctKeys, later.hasDistinctKeys⟩

/-- The contents of a mapping have distinct keys at each depth. -/
theorem DenoteEntries.hasDistinctKeys : {entries : List (Event × Event)} →
    {written : List (String × Value)} → DenoteEntries entries written →
    ∀ entry ∈ written, entry.2.HasDistinctKeys
  | _, _, .nil => by simp
  | _, _, .cons _ value later =>
    List.forall_mem_cons.mpr ⟨value.hasDistinctKeys, later.hasDistinctKeys⟩

end

end Event

mutual

/-- A value with distinct keys is built again from its own events. -/
theorem ofEvent?_toEvent (value : Value) (distinct : value.HasDistinctKeys) :
    ofEvent? value.toEvent = some value := by
  cases value with
  | sequence items =>
    cases distinct with
    | sequence each => rw [toEvent, ofEvent?, ofEvents?_toEvents items each, Option.map_some]
  | mapping entries =>
    cases distinct with
    | mapping distinct each =>
      have rebuilt := Entries.ofList_eq_self distinct
      rw [Entries.ofList] at rebuilt
      rw [toEvent, ofEvent?, ofEventEntries?_toEventEntries entries [] each, rebuilt,
        Option.map_some]
  | _ => rfl
termination_by structural value

/-- The values of a list come back from their events. -/
theorem ofEvents?_toEvents (items : List Value) (each : ∀ item ∈ items, item.HasDistinctKeys) :
    ofEvents? (toEvents items) = some items := by
  cases items with
  | nil => rfl
  | cons item rest =>
    obtain ⟨first, later⟩ := List.forall_mem_cons.mp each
    rw [toEvents, ofEvents?_cons, ofEvent?_toEvent item first, ofEvents?_toEvents rest later]
    rfl
termination_by structural items

/-- The entries are inserted one after the other. -/
theorem ofEventEntries?_toEventEntries (entries collected : List (String × Value))
    (each : ∀ entry ∈ entries, entry.2.HasDistinctKeys) :
    ofEventEntries? (toEventEntries entries) collected = some
      (entries.foldl (fun collected entry => Entries.insert entry.1 entry.2 collected)
        collected) := by
  match entries with
  | [] => rfl
  | (key, content) :: rest =>
    obtain ⟨first, later⟩ := List.forall_mem_cons.mp each
    have name : ofEvent? (.text key) = some (.string key) := rfl
    rw [toEventEntries, ofEventEntries?_cons, name, ofEvent?_toEvent content first]
    exact ofEventEntries?_toEventEntries rest _ later
termination_by structural entries

end

/-- An event without bytes has a value, which is what the event stands for. The keys of the value
are distinct at each depth. A value with distinct keys comes back from its own events, and so does a
mapping from its own entries. -/
theorem building_inverts_events :
    (∀ event : Event, (ofEvent? event = none ↔ event.HasBytes) ∧
      ∀ value, (ofEvent? event = some value ↔ event.Denotes value) ∧
        (ofEvent? event = some value → value.HasDistinctKeys)) ∧
    (∀ value : Value, value.HasDistinctKeys → ofEvent? value.toEvent = some value) ∧
    ∀ entries : List (String × Value), Entries.Distinct entries →
      Entries.ofList entries = entries := by
  refine ⟨?_, ofEvent?_toEvent, fun entries => Entries.ofList_eq_self⟩
  intro event
  refine ⟨ofEvent?_eq_none_iff event, ?_⟩
  intro value
  refine ⟨ofEvent?_eq_some_iff event value, ?_⟩
  intro built
  exact ((ofEvent?_eq_some_iff event value).mp built).hasDistinctKeys

/-- Keys of different kinds meet in one text, in a mapping and in a mapping inside it. -/
theorem building_inverts_events_texts :
    ∃ value, ofEvent? (.mapping [(.signed 1, .text "x"), (.text "a", .unit),
        (.text "1", .sequence [.mapping [(.boolean true, .text "y"),
          (.text "yes", .character 'z')]])]) =
          some value ∧
      value.text = "1=yes=z a=none" ∧ ofEvent? value.toEvent = some value := by
  let event : Event := .mapping [(.signed 1, .text "x"), (.text "a", .unit),
    (.text "1", .sequence [.mapping [(.boolean true, .text "y"), (.text "yes", .character 'z')]])]
  let value : Value := .mapping [("1", .sequence [.mapping [("yes", .string "z")]]), ("a", .null)]
  have built : ofEvent? event = some value := rfl
  obtain ⟨building, again, _⟩ := building_inverts_events
  have distinct : value.HasDistinctKeys := ((building event).2 value).2 built
  exact ⟨value, built, by decide +kernel, again value distinct⟩

end HostTree.Value
