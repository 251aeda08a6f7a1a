import AskSql.Proofs.Prompt.Bindings
import AskSql.Proofs.Prompt.Reading
import AskSql.Proofs.Text.ByteOrder

/-!
What a prompt is rendered as.

A prompt has a text just if each of its variables is bound, in advance or by the call; otherwise the
first one in the order of bytes that is not bound is named. There is no third way: the variables
that are asked for and the variables that are replaced are those of the one reading of the template,
so no variable is left without a value, and nothing that is not a variable is asked for.

* `Template.Expands`: the text of tokens under values; a variable without a value has none.
* `Prompt.HasBinding`, `Prompt.FirstUnbound`: a variable that is bound, and the one that is named.
* `Prompt.Rendered`: the two ways in which rendering ends.
* `Prompt.render_outcome`: how a prompt is rendered, when it has a text, and what that depends on.
-/

namespace AskSql

namespace Template

/-! ### Tokens and values -/

/-- The text of tokens under values. A variable without a value has no text. -/
inductive Expands (value? : String → Option String) : List Token → List Char → Prop
  | nil : Expands value? [] []
  | char {c : Char} {tokens : List Token} {text : List Char} (h : Expands value? tokens text) :
      Expands value? (.char c :: tokens) (c :: text)
  | slot {name : List Char} {value : String} {tokens : List Token} {text : List Char}
      (hvalue : value? (String.ofList name) = some value) (h : Expands value? tokens text) :
      Expands value? (.slot name :: tokens) (value.toList ++ text)

variable {value? other? : String → Option String} {tokens : List Token}

/-- Tokens whose variables all have values are filled in with them. -/
lemma expands_fill {value : String → String} (h : ∀ name, .slot name ∈ tokens →
      value? (String.ofList name) = some (value (String.ofList name))) :
    Expands value? tokens (fill (fun name => (value name).toList) tokens) := by
  induction tokens with
  | nil => exact .nil
  | cons token tokens ih =>
      have hrest := ih fun name hname => h name (List.mem_cons_of_mem token hname)
      cases token with
      | char c => exact .char hrest
      | slot name => exact .slot (h name List.mem_cons_self) hrest

namespace Expands

variable {text other : List Char}

/-- Every variable that is replaced has a value. -/
lemma isSome (h : Expands value? tokens text) {name : List Char} (hname : .slot name ∈ tokens) :
    (value? (String.ofList name)).isSome = true := by
  induction h with
  | nil => cases hname
  | char _ ih =>
      rcases List.mem_cons.mp hname with heq | hname
      · cases heq
      · exact ih hname
  | slot hvalue _ ih =>
      rcases List.mem_cons.mp hname with heq | hname
      · cases heq
        rw [hvalue]
        rfl
      · exact ih hname

/-- Tokens have one text under given values. -/
lemma unique (h : Expands value? tokens text) (hother : Expands value? tokens other) :
    text = other := by
  induction h generalizing other with
  | nil =>
      cases hother
      rfl
  | char _ ih =>
      cases hother with
      | char hother => rw [ih hother]
  | slot hvalue _ ih =>
      cases hother with
      | slot hvalue' hother =>
          rw [hvalue] at hvalue'
          rw [Option.some.inj hvalue', ih hother]

/-- Only the values of variables that occur matter. -/
lemma congr (h : Expands value? tokens text) (hsame : ∀ name, .slot name ∈ tokens →
      other? (String.ofList name) = value? (String.ofList name)) : Expands other? tokens text := by
  induction h with
  | nil => exact .nil
  | char _ ih => exact .char (ih fun name hname => hsame name (List.mem_cons_of_mem _ hname))
  | slot hvalue _ ih =>
      refine .slot ?_ (ih fun name hname => hsame name (List.mem_cons_of_mem _ hname))
      rw [hsame _ List.mem_cons_self, hvalue]

end Expands

end Template

namespace Prompt

variable {p q : Prompt} {bindings others : Bindings}

/-! ### The two ends -/

/-- The name is bound, in advance or by the call. -/
def HasBinding (p : Prompt) (bindings : Bindings) (name : String) : Prop :=
  p.bound.contains name = true ∨ ∃ value, (name, value) ∈ bindings

/-- The variable that a failure names: of those that are not bound, the first in the order of
bytes. -/
structure FirstUnbound (p : Prompt) (bindings : Bindings) (name : String) : Prop where
  declared : name ∈ p.variableNames
  unbound : ¬ p.HasBinding bindings name
  least : ∀ other ∈ p.variableNames, ¬ p.HasBinding bindings other →
    Text.utf8 name ≤ Text.utf8 other

/-- What rendering ends in: the text of the tokens that the template is read as, each variable
replaced by its value, or a failure that names a variable. -/
inductive Rendered (p : Prompt) (bindings : Bindings) : Except Failure String → Prop
  | text {tokens : List Template.Token} {text : String}
      (hreads : Template.Reads p.template.toList tokens)
      (h : Template.Expands (p.valueOf? bindings) tokens text.toList) :
      Rendered p bindings (.ok text)
  | unbound {name : String} (h : p.FirstUnbound bindings name) :
      Rendered p bindings (.error (.configuration (.unboundVariable name)))

/-- A template is read as its tokens, and as no others. -/
lemma reads_iff_eq_tokens {tokens : List Template.Token} :
    Template.Reads p.template.toList tokens ↔ tokens = p.tokens := Template.reads_iff

/-- A name has a value just if it is bound. -/
lemma valueOf?_isSome_iff {name : String} :
    (p.valueOf? bindings name).isSome = true ↔ p.HasBinding bindings name := by
  rw [valueOf?, Option.isSome_or, Bool.or_eq_true, or_comm]
  refine or_congr Iff.rfl ?_
  rw [List.lookup_isSome_iff]
  constructor
  · rintro ⟨⟨other, value⟩, hmem, heq⟩
    obtain rfl := eq_of_beq heq
    exact ⟨value, List.mem_reverse.mp hmem⟩
  · rintro ⟨value, hmem⟩
    exact ⟨(name, value), List.mem_reverse.mpr hmem, beq_self_eq_true name⟩

lemma contains_values_iff {name : String} :
    (p.values bindings).contains name = true ↔ p.HasBinding bindings name := by
  rw [Dictionary.contains, values_get?, valueOf?_isSome_iff]

/-- The variables are a matter of the template alone. -/
lemma variableNames_congr (h : q.template = p.template) : q.variableNames = p.variableNames := by
  rw [variableNames, variableNames, tokens, tokens, h]

/-- Since the variables are looked at in ascending order, the first one without a value is the
least. -/
lemma firstUnbound_of_find? {name : String}
    (h : (p.variableNames.find? fun name => !(p.values bindings).contains name) = some name) :
    p.FirstUnbound bindings name := by
  obtain ⟨hname, before, after, hnames, hbefore⟩ := List.find?_eq_some_iff_append.mp h
  have hdeclared : name ∈ p.variableNames := List.mem_of_find?_eq_some h
  have hunbound : ¬ p.HasBinding bindings name := by
    rw [← contains_values_iff]
    simpa using hname
  refine ⟨hdeclared, hunbound, fun other hother hnot => ?_⟩
  rw [Text.utf8_le_iff]
  have hascending := p.variableNames_ascending
  rw [hnames, List.pairwise_append, List.pairwise_cons] at hascending
  rw [hnames, List.mem_append, List.mem_cons] at hother
  -- the variables in front of it are bound, those behind it are greater
  rcases hother with hother | rfl | hother
  · have hbound := hbefore other hother
    rw [Bool.not_not, contains_values_iff] at hbound
    exact absurd hbound hnot
  · exact String.le_refl other
  · exact String.not_lt.mp (String.lt_asymm (hascending.2.1.1 other hother))

/-- There is one first variable that is not bound, if any. -/
lemma FirstUnbound.unique {name other : String} (h : p.FirstUnbound bindings name)
    (hother : p.FirstUnbound bindings other) : name = other := by
  have hle := h.least other hother.declared hother.unbound
  have hge := hother.least name h.declared h.unbound
  exact String.le_antisymm ((Text.utf8_le_iff _ _).mp hle) ((Text.utf8_le_iff _ _).mp hge)

/-! ### Rendering -/

/-- Rendering ends in one of the two ways. -/
lemma rendered_render (p : Prompt) (bindings : Bindings) :
    p.Rendered bindings (p.render bindings) := by
  cases hfind : p.variableNames.find? fun name => !(p.values bindings).contains name with
  | some name =>
      rw [render, hfind]
      exact .unbound (firstUnbound_of_find? hfind)
  | none =>
      have hvalue : ∀ name ∈ p.variableNames,
          p.valueOf? bindings name = some ((p.valueOf? bindings name).getD "") := by
        intro name hname
        have hcontains := List.find?_eq_none.mp hfind name hname
        rw [Bool.not_eq_true, Bool.not_eq_false', contains_values_iff, ← valueOf?_isSome_iff]
          at hcontains
        obtain ⟨value, hvalue⟩ := Option.isSome_iff_exists.mp hcontains
        rw [hvalue, Option.getD_some]
      rw [render_of_bound hvalue]
      refine .text (Template.reads_scan _) ?_
      rw [String.toList_ofList]
      refine Template.expands_fill fun name hname => hvalue _ ?_
      rwa [mem_variableNames_iff, String.toList_ofList]

/-- Where there is a text, every variable is bound. -/
lemma hasBinding_of_expands {text : List Char} {name : String}
    (h : Template.Expands (p.valueOf? bindings) p.tokens text) (hname : name ∈ p.variableNames) :
    p.HasBinding bindings name := by
  have hvalue := h.isSome (mem_variableNames_iff.mp hname)
  rwa [String.ofList_toList, valueOf?_isSome_iff] at hvalue

/-- And in no other. -/
lemma Rendered.unique {outcome other : Except Failure String} (h : p.Rendered bindings outcome)
    (hother : p.Rendered bindings other) : outcome = other := by
  cases h with
  | text hreads hexpands =>
      obtain rfl := reads_iff_eq_tokens.mp hreads
      cases hother with
      | text hreads' hexpands' =>
          obtain rfl := reads_iff_eq_tokens.mp hreads'
          rw [String.toList_inj.mp (hexpands.unique hexpands')]
      | unbound hfirst =>
          exact absurd (hasBinding_of_expands hexpands hfirst.declared) hfirst.unbound
  | unbound hfirst =>
      cases hother with
      | text hreads hexpands =>
          obtain rfl := reads_iff_eq_tokens.mp hreads
          exact absurd (hasBinding_of_expands hexpands hfirst.declared) hfirst.unbound
      | unbound hfirst' => rw [hfirst.unique hfirst']

lemma render_eq_iff {outcome : Except Failure String} :
    p.render bindings = outcome ↔ p.Rendered bindings outcome := by
  constructor
  · rintro rfl
    exact rendered_render p bindings
  · exact (rendered_render p bindings).unique

/-- Only the template and the values of its variables matter. -/
lemma Rendered.congr (htemplate : q.template = p.template)
    (hsame : ∀ name ∈ p.variableNames, q.valueOf? others name = p.valueOf? bindings name)
    {outcome : Except Failure String} (h : p.Rendered bindings outcome) :
    q.Rendered others outcome := by
  have hbinding : ∀ name ∈ p.variableNames,
      (q.HasBinding others name ↔ p.HasBinding bindings name) := by
    intro name hname
    rw [← valueOf?_isSome_iff, ← valueOf?_isSome_iff, hsame name hname]
  cases h with
  | text hreads hexpands =>
      obtain rfl := reads_iff_eq_tokens.mp hreads
      rw [← htemplate] at hreads
      refine .text hreads (hexpands.congr fun name hname => hsame _ ?_)
      rwa [mem_variableNames_iff, String.toList_ofList]
  | @unbound name hfirst =>
      have hnames := variableNames_congr htemplate
      refine .unbound ⟨hnames ▸ hfirst.declared, ?_, fun other hother hnot => ?_⟩
      · rw [hbinding name hfirst.declared]
        exact hfirst.unbound
      · rw [hnames] at hother
        exact hfirst.least other hother (mt (hbinding other hother).mpr hnot)

/-- **How a prompt is rendered.** Its template is read in one way, and its variables are those of
this reading. Rendering ends in the text of the reading, each variable replaced by its value, or in
a failure that names the first variable, in the order of bytes, that is not bound; there is a text
just if all of them are bound, in advance or by the call. All this depends on the values of the
variables alone. -/
theorem render_outcome (p : Prompt) (bindings : Bindings) :
    (∀ tokens, Template.Reads p.template.toList tokens ↔ tokens = p.tokens)
    ∧ (∀ name, name ∈ p.variableNames ↔ .slot name.toList ∈ p.tokens)
    ∧ (∀ outcome, p.render bindings = outcome ↔ p.Rendered bindings outcome)
    ∧ ((∃ text, p.render bindings = .ok text)
      ↔ ∀ name ∈ p.variableNames, p.HasBinding bindings name)
    ∧ (∀ failure, p.render bindings = .error failure →
      ∃ name, p.FirstUnbound bindings name
        ∧ failure.message
          = "Configuration error: " ++ ("Missing value for template variable '" ++ name ++ "'"))
    ∧ ∀ (q : Prompt) (others : Bindings), q.template = p.template →
      (∀ name ∈ p.variableNames, q.valueOf? others name = p.valueOf? bindings name) →
      q.render others = p.render bindings := by
  refine ⟨fun tokens => reads_iff_eq_tokens, fun name => mem_variableNames_iff,
    fun outcome => render_eq_iff, ⟨?_, fun hbound => ?_⟩, fun failure hfailure => ?_,
    fun q others htemplate hsame => ?_⟩
  · rintro ⟨text, htext⟩ name hname
    cases render_eq_iff.mp htext with
    | text hreads hexpands =>
        obtain rfl := reads_iff_eq_tokens.mp hreads
        exact hasBinding_of_expands hexpands hname
  · generalize hrender : p.render bindings = outcome
    cases render_eq_iff.mp hrender with
    | text => exact ⟨_, rfl⟩
    | unbound hfirst => exact absurd (hbound _ hfirst.declared) hfirst.unbound
  · cases render_eq_iff.mp hfailure with
    | unbound hfirst => exact ⟨_, hfirst, rfl⟩
  · exact render_eq_iff.mpr ((rendered_render p bindings).congr htemplate hsame)

/-- Braces that are doubled, left open and closed twice, and a name that is none. -/
def openPrompt : Prompt where
  template := "\x7b\x7b\x7bb\x7d\x7d\x7d\x7ba\x7bc\x7d\x7bé\x7d\x7d"
  bound := .ofList [("b", "x"), ("a", "1")]

/-- What its two variables are bound to. -/
def openValue (name : String) : String := if name = "b" then "x" else ""

/-- Its two variables are replaced, one of them by an empty text that it is bound to. Other bindings
with the same values for these two give the same text, and with none the first of them is named. -/
theorem openPrompt_outcome :
    (∀ name ∈ openPrompt.variableNames, openPrompt.bare.valueOf?
      [("c", "no"), ("b", "x"), ("c", "")] name = openPrompt.valueOf? [("c", "")] name)
    ∧ openPrompt.render [("c", "")] = .ok "\x7bx\x7d\x7ba\x7bé\x7d"
    ∧ openPrompt.bare.render [("c", "no"), ("b", "x"), ("c", "")]
      = .ok "\x7bx\x7d\x7ba\x7bé\x7d"
    ∧ openPrompt.bare.render [] = .error (.configuration (.unboundVariable "b")) := by
  have hnames : openPrompt.variableNames = ["b", "c"] := by decide +kernel
  have hsame : ∀ name ∈ openPrompt.variableNames, openPrompt.bare.valueOf?
      [("c", "no"), ("b", "x"), ("c", "")] name = openPrompt.valueOf? [("c", "")] name := by
    rw [hnames]
    decide
  have hvalue : ∀ name ∈ openPrompt.variableNames,
      openPrompt.valueOf? [("c", "")] name = some (openValue name) := by
    rw [hnames]
    decide
  have htext : openPrompt.render [("c", "")] = .ok "\x7bx\x7d\x7ba\x7bé\x7d" := by
    rw [render_of_bound hvalue]
    exact congrArg Except.ok (by decide +kernel)
  have hbare : openPrompt.bare.variableNames = ["b", "c"] := hnames
  have hfirst : openPrompt.bare.FirstUnbound [] "b" := by
    refine ⟨by simp [hbare], by simp [HasBinding, bare, Dictionary.contains], ?_⟩
    rw [hbare]
    intro other hother _
    rw [Text.utf8_le_iff]
    obtain rfl | rfl : other = "b" ∨ other = "c" := by simpa using hother
    · exact String.le_refl _
    · decide
  obtain ⟨-, -, -, -, -, hdepends⟩ := render_outcome openPrompt [("c", "")]
  obtain ⟨-, -, hends, -⟩ := render_outcome openPrompt.bare []
  exact ⟨hsame, htext, by rw [hdepends openPrompt.bare _ rfl hsame, htext],
    (hends _).mpr (.unbound hfirst)⟩

end Prompt

end AskSql
