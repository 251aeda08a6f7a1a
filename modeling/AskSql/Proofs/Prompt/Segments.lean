import AskSql.Prompt
import AskSql.Proofs.Dictionary
import Mathlib.Logic.Basic

/-!
Templates put together from segments, read back.

A template is scanned from the left, and what was written for a segment ends where the scan stops
to look for the next token. So a brace at the end of a text and one at the beginning of a variable
never run into each other, whatever the texts are: the invariant is that the scan of a template
that begins with a segment yields the tokens of that segment and goes on behind it.

* `Segment.tokens`, `Segment.expand`: what a segment is read as, and what it stands for under given
  values.
* `scan_write`: a template put together from segments is read as their tokens.
* `Prompt.mem_variableNames_iff`, `Prompt.render_of_bound`: the variables of a prompt and its text,
  by its tokens.
* `Prompt.render_write`: the variables of a prompt put together from segments are those of its
  segments, and its text is what the segments stand for.
-/

namespace AskSql

namespace Template

namespace Segment

/-- The tokens that a segment is read as. -/
def tokens : Segment → List Token
  | text s => s.toList.map .char
  | slot name => [.slot name.toList]

/-- What a segment stands for: a text for itself, a variable for its value. -/
def expand (value : String → String) : Segment → String
  | text s => s
  | slot name => value name

/-- A segment that can be written: the name of a variable is a name. -/
def WellNamed : Segment → Prop
  | text _ => True
  | slot name => isName name.toList = true

instance : DecidablePred WellNamed := fun segment => match segment with
  | text _ => inferInstanceAs (Decidable True)
  | slot name => inferInstanceAs (Decidable (isName name.toList = true))

end Segment

/-! ### Scanning what was written -/

/-- A character of a text is read as itself, a doubled brace as a single one. -/
lemma scan_escape (c : Char) (rest : List Char) :
    scan (escape c ++ rest) = .char c :: scan rest := by
  by_cases hopen : c = '\x7b'
  · subst hopen
    exact scan.eq_2 _ _
  · by_cases hclose : c = '\x7d'
    · subst hclose
      exact scan.eq_2 _ _
    · have hone : scanOne c rest = (.char c, rest) := by
        unfold scanOne
        rw [if_neg hopen, if_neg hclose]
      rw [escape, if_neg (not_or.mpr ⟨hopen, hclose⟩), List.singleton_append, scan, hone]

/-- A text is read as its characters. -/
lemma scan_text (s rest : List Char) :
    scan (s.flatMap escape ++ rest) = s.map .char ++ scan rest := by
  induction s with
  | nil => rfl
  | cons c s ih => rw [List.flatMap_cons, List.append_assoc, scan_escape, ih, List.map_cons,
      List.cons_append]

/-- Every character of a name may stand in a name. -/
lemma isNamePart_of_isName {name : List Char} (h : isName name = true) :
    ∀ c ∈ name, isNamePart c = true := by
  cases name with
  | nil => exact List.forall_mem_nil _
  | cons c name =>
      obtain ⟨hstart, hparts⟩ := Bool.and_eq_true_iff.mp h
      refine List.forall_mem_cons.mpr ⟨?_, List.all_eq_true.mp hparts⟩
      rw [isNamePart, hstart, Bool.true_or]

/-- A name is read up to the brace that closes it. -/
lemma readName_append {name : List Char} (h : isName name = true) (rest : List Char) :
    readName (name ++ '\x7d' :: rest) = some (name, rest) := by
  have hparts := isNamePart_of_isName h
  have hbrace : ¬ isNamePart '\x7d' = true := by decide
  have hname : (name ++ '\x7d' :: rest).takeWhile isNamePart = name := by
    rw [List.takeWhile_append_of_pos hparts, List.takeWhile_cons_of_neg hbrace, List.append_nil]
  have hrest : (name ++ '\x7d' :: rest).dropWhile isNamePart = '\x7d' :: rest := by
    rw [List.dropWhile_append_of_pos hparts, List.dropWhile_cons_of_neg hbrace]
  rw [readName, hrest, hname]
  exact if_pos h

/-- A variable is read as one, since its name does not begin with a brace. -/
lemma scan_slot {name : List Char} (h : isName name = true) (rest : List Char) :
    scan ('\x7b' :: name ++ ['\x7d'] ++ rest) = .slot name :: scan rest := by
  have htext : '\x7b' :: name ++ ['\x7d'] ++ rest = '\x7b' :: (name ++ '\x7d' :: rest) := by simp
  have hstart : ∀ after, name ++ '\x7d' :: rest ≠ '\x7b' :: after := by
    intro after hafter
    cases name with
    | nil => cases h
    | cons c name =>
        obtain ⟨rfl, -⟩ := List.cons.inj hafter
        rw [isName, Bool.and_eq_true] at h
        cases h.1
  have hone : scanOne '\x7b' (name ++ '\x7d' :: rest) = (.slot name, rest) := by
    unfold scanOne
    rw [if_pos rfl]
    split
    · next after hafter => exact absurd hafter (hstart after)
    · rw [readName_append h]
  rw [htext, scan, hone]

/-- What was written for a segment is read as its tokens, and the scan goes on behind it. -/
lemma scan_segment {segment : Segment} (h : segment.WellNamed) (rest : List Char) :
    scan (segment.write ++ rest) = segment.tokens ++ scan rest := by
  cases segment with
  | text s => exact scan_text s.toList rest
  | slot name => exact scan_slot h rest

/-- A template put together from segments is read as their tokens. -/
theorem scan_write {segments : List Segment} (h : ∀ segment ∈ segments, segment.WellNamed) :
    scan (write segments).toList = segments.flatMap Segment.tokens := by
  rw [write, String.toList_ofList]
  induction segments with
  | nil => rw [List.flatMap_nil, List.flatMap_nil, scan]
  | cons segment segments ih =>
      obtain ⟨hfirst, hrest⟩ := List.forall_mem_cons.mp h
      rw [List.flatMap_cons, scan_segment hfirst, ih hrest, List.flatMap_cons]

/-! ### The tokens of segments -/

lemma mem_variableNames_iff {name : String} {tokens : List Token} :
    name ∈ variableNames tokens ↔ .slot name.toList ∈ tokens := by
  rw [variableNames, List.mem_filterMap]
  constructor
  · rintro ⟨_ | found, hfound, heq⟩
    · cases heq
    · obtain rfl := Option.some.inj heq
      rwa [String.toList_ofList]
  · intro h
    exact ⟨_, h, congrArg some String.ofList_toList⟩

/-- The variables among the tokens of segments are those of the segments. -/
lemma slot_mem_tokens_iff {name : String} {segments : List Segment} :
    .slot name.toList ∈ segments.flatMap Segment.tokens ↔ .slot name ∈ segments := by
  rw [List.mem_flatMap]
  constructor
  · rintro ⟨segment, hsegment, hslot⟩
    cases segment with
    | text s => simp [Segment.tokens] at hslot
    | slot other =>
        obtain rfl : name = other := by
          simpa [Segment.tokens, String.toList_inj] using hslot
        exact hsegment
  · intro h
    exact ⟨_, h, List.mem_singleton.mpr rfl⟩

lemma fill_append (value : String → List Char) (first second : List Token) :
    fill value (first ++ second) = fill value first ++ fill value second :=
  List.flatMap_append

/-- Only the values of variables that occur are filled in. -/
lemma fill_congr {value other : String → List Char} {tokens : List Token}
    (h : ∀ name, .slot name ∈ tokens → value (String.ofList name) = other (String.ofList name)) :
    fill value tokens = fill other tokens := by
  induction tokens with
  | nil => rfl
  | cons token tokens ih =>
      have htokens := ih fun name hname => h name (List.mem_cons_of_mem _ hname)
      cases token with
      | char c => exact congrArg (c :: ·) htokens
      | slot name => exact congrArg₂ (· ++ ·) (h name List.mem_cons_self) htokens

/-- The tokens of a segment are filled in with what it stands for. -/
lemma fill_segment (value : String → String) (segment : Segment) :
    fill (fun name => (value name).toList) segment.tokens = (segment.expand value).toList := by
  cases segment with
  | text s => simp [fill, Segment.tokens, Segment.expand, List.flatMap_map]
  | slot name => simp [fill, Segment.tokens, Segment.expand]

/-- The tokens of segments are filled in with what the segments stand for, one after the other. -/
lemma fill_tokens (value : String → String) (segments : List Segment) :
    String.ofList (fill (fun name => (value name).toList) (segments.flatMap Segment.tokens))
      = String.join (segments.map (Segment.expand value)) := by
  rw [← String.toList_inj, String.toList_ofList, String.toList_join, List.flatMap_map]
  induction segments with
  | nil => rfl
  | cons segment segments ih =>
      rw [List.flatMap_cons, List.flatMap_cons, fill_append, fill_segment, ih]

end Template

/-! ### Prompts -/

namespace Prompt

open Template (Segment)

/-- The keys of a dictionary are those that are bound in it. -/
lemma mem_keys_iff {α : Type} {d : Dictionary α} {key : String} :
    key ∈ keys d ↔ (d.get? key).isSome = true := by
  rw [keys, Dictionary.get?, List.lookup_isSome_iff, List.mem_map]
  constructor
  · rintro ⟨entry, hentry, rfl⟩
    exact ⟨entry, hentry, beq_self_eq_true _⟩
  · rintro ⟨entry, hentry, heq⟩
    exact ⟨entry, hentry, (eq_of_beq heq).symm⟩

/-- Of many bindings to the same value, a key is bound just if it is among them. -/
lemma mem_keys_ofList_iff {key : String} {names : List String} :
    key ∈ keys (Dictionary.ofList (names.map fun name => (name, ()))) ↔ key ∈ names := by
  rw [mem_keys_iff, Dictionary.ofList, Dictionary.get?_insertAll, Dictionary.get?_empty,
    Option.or_none, List.lookup_isSome_iff]
  simp

/-- The variables of a prompt are those among the tokens of its template. -/
lemma mem_variableNames_iff {p : Prompt} {name : String} :
    name ∈ p.variableNames ↔ .slot name.toList ∈ p.tokens := by
  rw [variableNames, mem_keys_ofList_iff, Template.mem_variableNames_iff]

/-- The variables of a prompt are named in ascending order, each once. -/
lemma variableNames_ascending (p : Prompt) : p.variableNames.Pairwise (· < ·) :=
  List.pairwise_map.mpr (Dictionary.sorted _)

/-- What a variable is bound to for a call: to its last value among those of the call, or else to
the one that was bound in advance. -/
def valueOf? (p : Prompt) (bindings : Bindings) (name : String) : Option String :=
  (bindings.reverse.lookup name).or (p.bound.get? name)

lemma values_get? (p : Prompt) (bindings : Bindings) (name : String) :
    (p.values bindings).get? name = p.valueOf? bindings name :=
  Dictionary.get?_insertAll p.bound bindings name

/-- A prompt whose variables are all bound is rendered: its tokens are filled in. -/
lemma render_of_bound {p : Prompt} {bindings : Bindings} {value : String → String}
    (h : ∀ name ∈ p.variableNames, p.valueOf? bindings name = some (value name)) :
    p.render bindings
      = .ok (String.ofList (Template.fill (fun name => (value name).toList) p.tokens)) := by
  have hfind : (p.variableNames.find? fun name => !(p.values bindings).contains name) = none := by
    rw [List.find?_eq_none]
    intro name hname
    rw [Dictionary.contains, values_get?, h name hname]
    exact Bool.false_ne_true
  have hfill : Template.fill (fun name => (((p.values bindings).get? name).getD "").toList) p.tokens
      = Template.fill (fun name => (value name).toList) p.tokens := by
    refine Template.fill_congr fun name hname => ?_
    have hvariable : String.ofList name ∈ p.variableNames := by
      rwa [mem_variableNames_iff, String.toList_ofList]
    rw [values_get?, h _ hvariable, Option.getD_some]
  rw [render, hfind, ← hfill]

/-- **Templates from segments.** Let the template of a prompt be put together from texts, their
braces doubled, and variables. Its variables are exactly those among the segments, named in
ascending order, each once. And whenever all of them are bound, the prompt is rendered, as the texts
and the values one after the other, whatever braces either of them holds. -/
theorem render_write (p : Prompt) (segments : List Segment)
    (htemplate : p.template = Template.write segments)
    (hnames : ∀ segment ∈ segments, segment.WellNamed) :
    (∀ name, name ∈ p.variableNames ↔ .slot name ∈ segments)
    ∧ p.variableNames.Pairwise (· < ·)
    ∧ ∀ (bindings : Bindings) (value : String → String),
      (∀ name, .slot name ∈ segments → p.valueOf? bindings name = some (value name)) →
      p.render bindings = .ok (String.join (segments.map (Segment.expand value))) := by
  have htokens : p.tokens = segments.flatMap Segment.tokens := by
    rw [tokens, htemplate, Template.scan_write hnames]
  have hvariables : ∀ name, name ∈ p.variableNames ↔ .slot name ∈ segments := by
    intro name
    rw [mem_variableNames_iff, htokens, Template.slot_mem_tokens_iff]
  refine ⟨hvariables, p.variableNames_ascending, fun bindings value hvalue => ?_⟩
  have hbound : ∀ name ∈ p.variableNames, p.valueOf? bindings name = some (value name) :=
    fun name hname => hvalue name ((hvariables name).mp hname)
  rw [render_of_bound hbound, htokens, Template.fill_tokens]

/-- Braces next to variables, and values with braces and names in them. -/
def bracedSegments : List Segment :=
  [.text "\x7b", .slot "row", .text "\x7d\x7b", .slot "_2", .slot "row"]

/-- A prompt with one of its variables bound in advance. -/
def bracedPrompt : Prompt where
  template := Template.write bracedSegments
  bound := .ofList [("row", "\x7b_2\x7d")]

/-- What its variables are bound to. -/
def bracedValue (name : String) : String := if name = "row" then "\x7b_2\x7d" else "\x7d\x7b"

/-- Such a prompt has its two variables, and the values stay as they are. -/
theorem bracedPrompt_render :
    (∀ segment ∈ bracedSegments, segment.WellNamed)
    ∧ (∀ name, .slot name ∈ bracedSegments →
        bracedPrompt.valueOf? [("_2", "no"), ("_2", "\x7d\x7b")] name = some (bracedValue name))
    ∧ (∀ name, name ∈ bracedPrompt.variableNames ↔ .slot name ∈ bracedSegments)
    ∧ bracedPrompt.render [("_2", "no"), ("_2", "\x7d\x7b")]
      = .ok "\x7b\x7b_2\x7d\x7d\x7b\x7d\x7b\x7b_2\x7d" := by
  have hnames : ∀ segment ∈ bracedSegments, segment.WellNamed := by decide
  have hvalue : ∀ name, .slot name ∈ bracedSegments →
      bracedPrompt.valueOf? [("_2", "no"), ("_2", "\x7d\x7b")] name = some (bracedValue name) := by
    intro name hname
    obtain rfl | rfl | rfl : name = "row" ∨ name = "_2" ∨ name = "row" := by
      simpa [bracedSegments] using hname
    · rfl
    · rfl
    · rfl
  have hrender := render_write bracedPrompt bracedSegments rfl hnames
  exact ⟨hnames, hvalue, hrender.1, hrender.2.2 _ bracedValue hvalue⟩

end Prompt

end AskSql
