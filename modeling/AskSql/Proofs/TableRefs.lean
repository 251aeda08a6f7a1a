import AskSql.Proofs.Json.Drafts
import AskSql.Proofs.Session
import AskSql.Settings.Engine

/-!
Tables as settings refer to them.

A reference is written as a text, the name of the table, or as an object with a text as its `name`
and with a `schema` that is missing, null or a text; what else the object holds is of no account.
Every other value is refused, and the failure shows it as JSON. The tables of settings are a list of
such values, in their order, or no list at all if the member is missing or null. The first value
that is no reference fails the whole list.

* `TableRef.Denotes`: the grammar of references.
* `TableRef.ofJson_eq_ok_iff`, `TableRef.ofJson_eq_error_iff`: a value is read by the grammar alone.
* `EngineSettings.Given`: how tables are written in settings.
* `EngineSettings.given_of_ofText`: the tables that are read are those that are written.
* `EngineSettings.tableRefs_followGrammar`: references are accepted by their grammar, in order.
-/

namespace AskSql

open Json

/-! ### References -/

namespace TableRef

/-- What stands in the place of a qualifier: nothing, null or a text. -/
inductive Qualifies : Option Json → Option String → Prop where
  | missing : Qualifies none none
  | null : Qualifies (some .null) none
  | text (s : String) : Qualifies (some (.text s)) (some s)

/-- The grammar of references. -/
inductive Denotes : Json → TableRef → Prop where
  | named (name : String) : Denotes (.text name) (named name)
  | handle {members : List (String × Json)} {name : String} {qualifier : Option String}
      (hname : members.lookup "name" = some (.text name))
      (hqualifier : Qualifies (members.lookup "schema") qualifier) :
      Denotes (.object members) (handle ⟨name, qualifier⟩)

/-- A value that denotes a table. -/
def Accepted (value : Json) : Prop := ∃ ref, Denotes value ref

lemma ofMembers?_eq_some_iff {members : List (String × Json)} {table : TableHandle} :
    TableHandle.ofMembers? members = some table
      ↔ members.lookup "name" = some (.text table.name)
        ∧ Qualifies (members.lookup "schema") table.qualifier := by
  constructor
  · intro h
    rw [TableHandle.ofMembers?] at h
    split at h
    · next hname hschema =>
        cases h
        exact ⟨hname, hschema ▸ .missing⟩
    · next hname hschema =>
        cases h
        exact ⟨hname, hschema ▸ .null⟩
    · next hname hschema =>
        cases h
        exact ⟨hname, hschema ▸ .text _⟩
    · cases h
  · obtain ⟨name, qualifier⟩ := table
    rintro ⟨hname, hqualifier⟩
    rw [TableHandle.ofMembers?, hname]
    generalize members.lookup "schema" = schema at hqualifier
    cases hqualifier with
    | missing => rfl
    | null => rfl
    | text s => rfl

lemma denotes_object_iff {members : List (String × Json)} {ref : TableRef} :
    Denotes (.object members) ref
      ↔ ∃ table, TableHandle.ofMembers? members = some table ∧ handle table = ref := by
  constructor
  · rintro ⟨⟩
    next hname hqualifier =>
      exact ⟨_, ofMembers?_eq_some_iff.mpr ⟨hname, hqualifier⟩, rfl⟩
  · rintro ⟨table, htable, rfl⟩
    obtain ⟨hname, hqualifier⟩ := ofMembers?_eq_some_iff.mp htable
    exact .handle hname hqualifier

/-- **A value is read as the reference that it denotes.** -/
theorem ofJson_eq_ok_iff {value : Json} {ref : TableRef} :
    ofJson value = .ok ref ↔ Denotes value ref := by
  cases value with
  | text name =>
      constructor
      · rintro ⟨⟩
        exact .named name
      · rintro ⟨⟩
        rfl
  | object members =>
      rw [denotes_object_iff, ofJson]
      cases TableHandle.ofMembers? members with
      | none => simp
      | some table => simp
  | null => exact ⟨nofun, nofun⟩
  | bool b => exact ⟨nofun, nofun⟩
  | integer n => exact ⟨nofun, nofun⟩
  | real x => exact ⟨nofun, nofun⟩
  | array items => exact ⟨nofun, nofun⟩

lemma eq_of_ofJson_error {value : Json} {f : Failure} (h : ofJson value = .error f) :
    f = .configuration (.unknownTableType value) := by
  cases value with
  | text name => cases h
  | object members =>
      rw [ofJson] at h
      split at h
      · cases h
      · exact (Except.error.inj h).symm
  | null => exact (Except.error.inj h).symm
  | bool b => exact (Except.error.inj h).symm
  | integer n => exact (Except.error.inj h).symm
  | real x => exact (Except.error.inj h).symm
  | array items => exact (Except.error.inj h).symm

lemma accepted_iff {value : Json} : Accepted value ↔ ∃ ref, ofJson value = .ok ref :=
  exists_congr fun _ => ofJson_eq_ok_iff.symm

/-- **A value that denotes no table is refused**, with a failure that holds all of it. -/
theorem ofJson_eq_error_iff {value : Json} {f : Failure} :
    ofJson value = .error f ↔ ¬ Accepted value ∧ f = .configuration (.unknownTableType value) := by
  rw [accepted_iff]
  constructor
  · intro h
    refine ⟨?_, eq_of_ofJson_error h⟩
    rintro ⟨ref, href⟩
    cases h.symm.trans href
  · rintro ⟨hnot, rfl⟩
    cases hvalue : ofJson value with
    | ok ref => exact absurd ⟨ref, hvalue⟩ hnot
    | error f => rw [eq_of_ofJson_error hvalue]

/-- What is made of a value that stands for a table. -/
structure Judged (value : Json) : Prop where
  /-- It is read as the reference that it denotes, -/
  accepted_iff : ∀ ref, ofJson value = .ok ref ↔ Denotes value ref
  /-- whatever else an object holds; -/
  others : ∀ members members', value = .object members →
    members'.lookup "name" = members.lookup "name" →
    members'.lookup "schema" = members.lookup "schema" →
    ∀ ref, Denotes (.object members') ref ↔ Denotes value ref
  /-- or else it is refused, -/
  refused_iff : ∀ f, ofJson value = .error f
    ↔ ¬ Accepted value ∧ f = .configuration (.unknownTableType value)
  /-- with a message that ends with its text, -/
  message : ∀ f, ofJson value = .error f →
    f.message = "Configuration error: " ++ ("Unknown table type: " ++ value.toText)
  /-- from which the value can be told again, numbers with a fraction or an exponent aside. -/
  legible : ∀ depth ≤ depthLimit, value.Plain depth → parse value.toText = some value

lemma judged (value : Json) : Judged value where
  accepted_iff _ := ofJson_eq_ok_iff
  others := by
    rintro members members' rfl hname hschema ref
    rw [denotes_object_iff, denotes_object_iff, TableHandle.ofMembers?, TableHandle.ofMembers?,
      hname, hschema]
  refused_iff _ := ofJson_eq_error_iff
  message f h := by
    rw [eq_of_ofJson_error h]
    rfl
  legible _ hdepth hplain := hplain.parse_write hdepth

end TableRef

/-! ### Lists of values -/

section Lists

variable {α β : Type} {f : α → Except Failure β} {x : α} {xs : List α} {y : β}
  {failure : Failure}

lemma mapM_cons_of_error (h : f x = .error failure) (xs : List α) :
    (x :: xs).mapM f = .error failure := by
  rw [List.mapM_cons, h]
  rfl

lemma mapM_cons_of_ok (h : f x = .ok y) (xs : List α) :
    (x :: xs).mapM f = (xs.mapM f).map (y :: ·) := by
  rw [List.mapM_cons, h]
  cases xs.mapM f with
  | error e => rfl
  | ok ys => rfl

/-- A list is read if all of its values are, and what they are read as keeps their order. -/
lemma mapM_eq_ok_iff {ys : List β} :
    xs.mapM f = .ok ys ↔ List.Forall₂ (fun x y => f x = .ok y) xs ys := by
  induction xs generalizing ys with
  | nil =>
      rw [List.forall₂_nil_left_iff]
      exact ⟨fun h => (Except.ok.inj h).symm, fun h => congrArg Except.ok h.symm⟩
  | cons x xs ih =>
      rw [List.forall₂_cons_left_iff]
      cases hx : f x with
      | error e =>
          rw [mapM_cons_of_error hx]
          simp
      | ok y =>
          rw [mapM_cons_of_ok hx]
          cases hxs : xs.mapM f with
          | error e => simp [Except.map, ← ih, hxs]
          | ok zs => simp [Except.map, ← ih, hxs, eq_comm]

/-- A list fails with its first value that fails. -/
lemma mapM_eq_error_iff :
    xs.mapM f = .error failure ↔ ∃ before x after, xs = before ++ x :: after
      ∧ (∀ y ∈ before, ∃ z, f y = .ok z) ∧ f x = .error failure := by
  constructor
  · intro h
    induction xs with
    | nil => cases h
    | cons x xs ih =>
        cases hx : f x with
        | error cause =>
            rw [mapM_cons_of_error hx] at h
            obtain rfl := Except.error.inj h
            exact ⟨[], x, xs, rfl, List.forall_mem_nil _, hx⟩
        | ok y =>
            rw [mapM_cons_of_ok hx, Session.map_eq_error_iff] at h
            obtain ⟨before, x', after, rfl, hbefore, hx'⟩ := ih h
            exact ⟨x :: before, x', after, rfl, List.forall_mem_cons.mpr ⟨⟨y, hx⟩, hbefore⟩, hx'⟩
  · rintro ⟨before, x, after, rfl, hbefore, hx⟩
    induction before with
    | nil => exact mapM_cons_of_error hx after
    | cons first before ih =>
        obtain ⟨⟨y, hy⟩, hbefore⟩ := List.forall_mem_cons.mp hbefore
        rw [List.cons_append, mapM_cons_of_ok hy, ih hbefore]
        rfl

end Lists

/-! ### Tables in settings -/

namespace EngineSettings

/-- How the tables of settings are written: not at all, as null, or as an array. -/
inductive Given : Option Json → Option (List Json) → Prop where
  | missing : Given none none
  | null : Given (some .null) none
  | listed (values : List Json) : Given (some (.array values)) (some values)

/-- What settings hold as their tables: the member of that name or, where settings are written as
the array of their fields, the second item. -/
def tablesIn? : Json → Option Json
  | .array items => items[1]?
  | value => value.member? "tables"

/-- What tables that are written in settings come down to. -/
structure Referred (tables : Option Json) (outcome : Except Failure (Option (List TableRef))) :
    Prop where
  /-- No list, if there is none. -/
  none_iff : outcome = .ok none ↔ tables = none ∨ tables = some .null
  /-- A list of references, one for each value and in the same order, -/
  refs_iff : ∀ refs, outcome = .ok (some refs)
    ↔ ∃ values, tables = some (.array values) ∧ List.Forall₂ TableRef.Denotes values refs
  /-- if every value is one; -/
  accepted_iff : (∃ refs, outcome = .ok (some refs))
    ↔ ∃ values, tables = some (.array values) ∧ ∀ value ∈ values, TableRef.Accepted value
  /-- so an empty list stays empty. -/
  empty_iff : outcome = .ok (some []) ↔ tables = some (.array [])
  /-- Otherwise the failure of the first value that is none. -/
  error_iff : ∀ f, outcome = .error f ↔ ∃ before value after,
    tables = some (.array (before ++ value :: after)) ∧ (∀ v ∈ before, TableRef.Accepted v)
      ∧ TableRef.ofJson value = .error f

section Tables

variable {settings : EngineSettings} {tables : Option Json}

lemma tableRefs_of_none (h : settings.tables = none) : settings.tableRefs = .ok none := by
  rw [tableRefs, h]

lemma tableRefs_of_some {values : List Json} (h : settings.tables = some values) :
    settings.tableRefs = (values.mapM TableRef.ofJson).map some := by
  rw [tableRefs, h]

lemma forall_accepted_iff {values : List Json} :
    (∀ value ∈ values, TableRef.Accepted value)
      ↔ ∃ refs, List.Forall₂ TableRef.Denotes values refs := by
  induction values with
  | nil => simp
  | cons value values ih =>
      rw [List.forall_mem_cons, ih]
      constructor
      · rintro ⟨⟨ref, href⟩, refs, hrefs⟩
        exact ⟨ref :: refs, .cons href hrefs⟩
      · rintro ⟨refs, hrefs⟩
        cases hrefs with
        | cons href hrefs => exact ⟨⟨_, href⟩, _, hrefs⟩

lemma tableRefs_eq_ok_some_iff {values : List Json} (h : settings.tables = some values)
    {refs : List TableRef} :
    settings.tableRefs = .ok (some refs) ↔ List.Forall₂ TableRef.Denotes values refs := by
  have hmap : (values.mapM TableRef.ofJson).map some = .ok (some refs)
      ↔ values.mapM TableRef.ofJson = .ok refs := by
    cases values.mapM TableRef.ofJson <;> simp [Except.map]
  rw [tableRefs_of_some h, hmap, mapM_eq_ok_iff]
  simp only [TableRef.ofJson_eq_ok_iff]

lemma tableRefs_eq_error_iff {values : List Json} (h : settings.tables = some values)
    {f : Failure} :
    settings.tableRefs = .error f ↔ ∃ before value after, values = before ++ value :: after
      ∧ (∀ v ∈ before, TableRef.Accepted v) ∧ TableRef.ofJson value = .error f := by
  rw [tableRefs_of_some h, Session.map_eq_error_iff, mapM_eq_error_iff]
  simp only [TableRef.accepted_iff]

/-- What settings hold decides what their tables come down to. -/
lemma Given.referred (h : Given tables settings.tables) : Referred tables settings.tableRefs := by
  generalize hsettings : settings.tables = found at h
  cases h with
  | missing =>
      rw [tableRefs_of_none hsettings]
      constructor <;> simp
  | null =>
      rw [tableRefs_of_none hsettings]
      constructor <;> simp
  | listed values =>
      have hrefs := @tableRefs_eq_ok_some_iff settings values hsettings
      refine ⟨?_, fun refs => ?_, ?_, ?_, fun f => ?_⟩
      · rw [tableRefs_of_some hsettings]
        cases values.mapM TableRef.ofJson <;> simp [Except.map]
      · rw [hrefs]
        simp
      · simp only [hrefs, ← forall_accepted_iff]
        simp
      · rw [hrefs, List.forall₂_nil_right_iff]
        simp
      · rw [tableRefs_eq_error_iff hsettings]
        simp

end Tables

/-! ### Tables in the text of settings -/

section Text

/-- The tables of a draft as they are written. -/
def Shows (found : Option (List Json)) (value : Json) : Prop := Given (some value) found

/-- Of the fields of settings only the one for the tables reads them. -/
lemma fieldsAgree (depth : Nat) :
    FieldsAgree Draft.tables "tables" Shows depth (fields depth) := by
  have hother : ∀ name, name ≠ "tables" → ∀ draft next : Draft, next.tables = draft.tables →
      ∀ value, Sets Draft.tables "tables" Shows name draft value next :=
    fun name hname draft next hnext value => (sets_of_ne hname).mpr hnext
  refine List.forall_mem_cons.mpr ⟨?synthesize, List.forall_mem_cons.mpr ⟨?tables,
    List.forall_mem_cons.mpr ⟨?notes, List.forall_mem_singleton.mpr ?heading⟩⟩⟩
  case synthesize =>
    exact fun draft => agree_of (agree_readBool depth) draft
      fun x value _ => hother "synthesize_response" (by decide) _ _ rfl value
  case tables =>
    intro draft
    refine agree_of (agree_optional depth (agree_readArray depth)) draft ?_
    rintro x value (⟨rfl, rfl⟩ | ⟨values, rfl, rfl⟩)
    · exact sets_self.mpr ⟨none, rfl, .null⟩
    · exact sets_self.mpr ⟨some values, rfl, .listed values⟩
  case notes =>
    exact fun draft => agree_of (agree_readMap depth) draft
      fun x value _ => hother "context_query_kwargs" (by decide) _ _ rfl value
  case heading =>
    exact fun draft => agree_of (agree_optional depth (agree_readText depth)) draft
      fun x value _ => hother "context_str_prefix" (by decide) _ _ rfl value

/-- What is read last under the name of the tables is what the draft shows. -/
lemma given_of_filled {members : List (String × Json)} {final : Draft}
    (h : Filled Draft.tables "tables" Shows {} members final) :
    Given (members.reverse.lookup "tables") (final.tables.getD none) := by
  obtain ⟨hnone, hget⟩ | ⟨value, found, hvalue, hget, hshows⟩ := h.found
  · rw [hnone, hget]
    exact .missing
  · rw [hvalue, hget]
    exact hshows

/-- The second item of an array of the fields is the one under the name of the tables. -/
lemma lookup_items (depth : Nat) (items : List Json) :
    ((((fields depth).map RecordField.name).zip items).reverse.lookup "tables") = items[1]? := by
  match items with
  | [] => rfl
  | [_] => rfl
  | [_, _] => rfl
  | [_, _, _] => rfl
  | _ :: _ :: _ :: _ :: _ => rfl

lemma exists_of_readAll {α : Type} {reader : Reader α} {s : List Char} {x : α}
    (h : readAll reader s = some x) : ∃ rest, reader s = some (x, rest) := by
  obtain ⟨⟨y, rest⟩, hread, h⟩ := Option.bind_eq_some_iff.mp h
  dsimp only at h
  split_ifs at h
  cases h
  exact ⟨rest, hread⟩

/-- **The tables that are read are those that are written.** -/
theorem given_of_ofText {s : String} {settings : EngineSettings} {value : Json}
    (hsettings : ofText s = .ok settings) (hvalue : parse s = some value) :
    Given (tablesIn? value) settings.tables := by
  have hread : readAll (readJson depthLimit) s.toList = some settings := by
    rw [ofText] at hsettings
    split at hsettings
    · next found hfound => rw [hfound, Except.ok.inj hsettings]
    · cases hsettings
  obtain ⟨rest, hrecord⟩ := exists_of_readAll hread
  obtain ⟨rest', hvalue⟩ := exists_of_readAll hvalue
  obtain ⟨final, hfinish, hfilled⟩ := filled_readRecord (fieldsAgree 126)
    ⟨_, List.mem_cons_of_mem _ List.mem_cons_self, rfl⟩ hrecord hvalue
  cases hfinish
  obtain ⟨members, rfl, hfilled⟩ | ⟨items, rfl, hfilled⟩ := hfilled
  · have hlookup : tablesIn? (ofDictionary (Dictionary.ofList members))
        = members.reverse.lookup "tables" := by
      show (Dictionary.ofList members).get? "tables" = _
      rw [Dictionary.ofList, Dictionary.get?_insertAll, Dictionary.get?_empty, Option.or_none]
    rw [hlookup]
    exact given_of_filled hfilled
  · have hlookup := lookup_items 126 items
    have hgiven := given_of_filled hfilled
    rw [hlookup] at hgiven
    exact hgiven

end Text

/-- **References are accepted by their grammar, in order.** Every value is read as the reference
that it denotes, or refused with all of it in the failure. The tables of settings come down to the
references that their values denote, up to the first value that denotes none; and the tables that
settings have are those that stand in the text they are read from. -/
theorem tableRefs_followGrammar :
    (∀ value, TableRef.Judged value)
      ∧ (∀ settings : EngineSettings,
          Referred (settings.tables.map .array) settings.tableRefs)
      ∧ ∀ s settings value, ofText s = .ok settings → parse s = some value →
          Referred (tablesIn? value) settings.tableRefs := by
  refine ⟨TableRef.judged, fun settings => Given.referred ?_,
    fun s settings value hsettings hvalue => (given_of_ofText hsettings hvalue).referred⟩
  cases settings.tables with
  | none => exact .missing
  | some values => exact .listed values

/-- A handle with a member that does not matter. -/
def usersHandle : Json :=
  .ofDictionary (.ofList [("name", .text "users"), ("schema", .null), ("rows", .integer 3)])

/-- Tables of which the third one is no reference. -/
def mixedTables : List Json := [.text "orders", usersHandle, .integer 7, .null]

/-- Settings with these tables, as they are written. -/
def mixedSettings : Json :=
  .ofDictionary (.ofList [("synthesize_response", .bool false), ("tables", .array mixedTables)])

/-- The settings that are read from them. -/
def mixedRead : EngineSettings where
  synthesize := false
  tables := some mixedTables

/-- The number among the tables fails all of them, and the null behind it is not reached. -/
theorem mixedSettings_followGrammar :
    ofText (String.ofList mixedSettings.write) = .ok mixedRead
      ∧ parse (String.ofList mixedSettings.write) = some mixedSettings
      ∧ mixedRead.tableRefs = .error (.configuration (.unknownTableType (.integer 7))) := by
  have hsettings : ofText (String.ofList mixedSettings.write) = .ok mixedRead := by
    rw [ofText, String.toList_ofList]
    rfl
  have hvalue : parse (String.ofList mixedSettings.write) = some mixedSettings := by
    rw [parse, String.toList_ofList]
    rfl
  have hreferred := tableRefs_followGrammar.2.2 _ _ _ hsettings hvalue
  refine ⟨hsettings, hvalue, (hreferred.error_iff _).mpr
    ⟨[.text "orders", usersHandle], .integer 7, [.null], rfl, ?_, rfl⟩⟩
  exact List.forall_mem_cons.mpr
    ⟨⟨_, .named "orders"⟩, List.forall_mem_singleton.mpr ⟨_, .handle rfl .null⟩⟩

end EngineSettings

end AskSql
