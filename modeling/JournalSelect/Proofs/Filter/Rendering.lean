import JournalSelect.Filter.Basic
import JournalSelect.Filter.Operator
import JournalSelect.Proofs.Text.Quoted

namespace JournalSelect

@[mk_iff]
structure Condition.Legible (c : Condition) : Prop where
  named      : c.tag ≠ ""
  undivided  : ' ' ∉ c.tag.toList
  unquoted   : '"' ∉ c.tag.toList
  unenclosed : '(' ∉ c.tag.toList ∧ ')' ∉ c.tag.toList
  operator   : ∃ op, Operator.ofWord? c.operator = some op

instance : DecidablePred Condition.Legible := fun c =>
  decidable_of_iff
    (c.tag ≠ "" ∧ ' ' ∉ c.tag.toList ∧ '"' ∉ c.tag.toList ∧
      ('(' ∉ c.tag.toList ∧ ')' ∉ c.tag.toList) ∧ (Operator.ofWord? c.operator).isSome)
    (by rw [Condition.legible_iff, Option.isSome_iff_exists])

inductive Term.Legible : Term → Prop
  | condition {negated c} : c.Legible → Term.Legible (.condition negated c)
  | group {negated alternatives} :
    alternatives ≠ [] → (∀ terms ∈ alternatives, terms ≠ []) →
    (∀ terms ∈ alternatives, ∀ term ∈ terms, Term.Legible term) →
    Term.Legible (.group negated alternatives)

-- No list is empty, at any depth, and all conditions are legible.
structure Filter.Legible (f : Filter) : Prop where
  nonempty : f ≠ [] ∧ ∀ terms ∈ f, terms ≠ []
  terms    : ∀ terms ∈ f, ∀ term ∈ terms, term.Legible

variable {x y : List Char}

namespace Operator

theorem words_plain : ∀ entry ∈ words, ∀ c ∈ [' ', '"', '('], c ∉ entry.1.toList := by
  simp [words]

theorem mem_words_of_ofWord? {word : String} {op : Operator} (h : ofWord? word = some op) :
    (Text.uppercased word, op) ∈ words := by
  have ⟨_, _, hw, _⟩ := List.lookup_eq_some_iff.mp h
  simp [hw]

theorem not_mem_of_ofWord? {word : String} {op : Operator} (h : ofWord? word = some op) {c : Char}
    (hc : c ∈ [' ', '"', '(']) : c ∉ word.toList := by
  intro hm
  have hu : Text.upper c = [c] := by simp at hc; rcases hc with rfl | rfl | rfl <;> rfl
  refine words_plain _ (mem_words_of_ofWord? h) c hc ?_
  simp [Text.uppercased]
  exact ⟨c, hm, by simp [hu]⟩

end Operator

theorem Condition.toList_render (c : Condition) :
    c.render.toList =
    c.tag.toList ++ ' ' :: (c.operator.toList ++ ' ' :: (Text.quoted c.value).toList) := by
  simp [render]

theorem append_space_ne {mark : Char} {word : List Char} (h : mark ∉ word) (hm : mark ≠ ' ') :
    word ++ ' ' :: x ≠ mark :: y := by
  intro he
  cases word <;> simp only [List.nil_append, List.cons_append, List.cons.injEq] at he
  case nil  => exact hm he.left.symm
  case cons => exact h (he.left ▸ List.mem_cons_self)

namespace Condition

variable {c d : Condition}

theorem Legible.not_mem_operator (hc : c.Legible) {mark : Char} (hm : mark ∈ [' ', '"', '(']) :
    mark ∉ c.operator.toList :=
  have ⟨_, ho⟩ := hc.operator
  Operator.not_mem_of_ofWord? ho hm

theorem Legible.append_inj (hc : c.Legible) (hd : d.Legible)
    (h : c.render.toList ++ x = d.render.toList ++ y) : c = d ∧ x = y := by
  simp only [toList_render, List.append_assoc, List.cons_append] at h
  have ⟨ht, h⟩ := Text.append_mark_inj hc.undivided hd.undivided h
  have ⟨ho, h⟩ := Text.append_mark_inj
    (hc.not_mem_operator (by simp)) (hd.not_mem_operator (by simp)) h
  have ⟨hv, h⟩ := Text.quoted_append_inj h
  cases c
  cases d
  simp_all [String.toList_inj]

theorem Legible.append_ne_group (hc : c.Legible) : c.render.toList ++ x ≠ '(' :: y := by
  rw [toList_render, List.append_assoc, List.cons_append]
  exact append_space_ne hc.unenclosed.left (by decide)

theorem Legible.operator_append_ne_quoted (hc : c.Legible) {s : String} :
    c.operator.toList ++ ' ' :: x ≠ (Text.quoted s).toList ++ y := by
  have ⟨cs, hq⟩ := Text.exists_toList_quoted s
  rw [hq, List.cons_append]
  exact append_space_ne (hc.not_mem_operator (by simp)) (by decide)

end Condition

-- How a term goes on behind its mark of negation.
inductive OpensBody : List Char → Prop
  | condition {c : Condition} {z} : c.Legible → OpensBody (c.render.toList ++ z)
  | group {z}                     : OpensBody ('(' :: z)

namespace OpensBody

variable {a b : List Char}

-- If the word NOT is a tag, then an operator and a value follow, and these are neither the beginning of
-- a group nor a tag and an operator.
theorem negation_append_ne (ha : OpensBody a) (hb : OpensBody b) : "NOT ".toList ++ a ≠ b := by
  intro h
  cases hb
  case group => simp at h
  case condition hd =>
    rw [show "NOT ".toList = "NOT".toList ++ [' '] from rfl, Condition.toList_render] at h
    simp only [List.append_assoc, List.cons_append, List.nil_append] at h
    have ⟨_, h⟩ := Text.append_mark_inj (by decide) hd.undivided h
    cases ha
    case group => exact append_space_ne (hd.not_mem_operator (by simp)) (by decide) h.symm
    case condition hc _ =>
      simp only [Condition.toList_render, List.append_assoc, List.cons_append] at h
      have ⟨_, h⟩ := Text.append_mark_inj hc.undivided (hd.not_mem_operator (by simp)) h
      exact hc.operator_append_ne_quoted h

theorem mark_inj {m n : Bool} (ha : OpensBody a) (hb : OpensBody b)
    (h : (negationMark m).toList ++ a = (negationMark n).toList ++ b) : m = n ∧ a = b := by
  cases m <;> cases n <;> simp only [negationMark] at h
  case false.false | true.true => simpa using h
  case false.true              => exact absurd h.symm (negation_append_ne hb ha)
  case true.false              => exact absurd h (negation_append_ne ha hb)

end OpensBody

theorem toList_intercalate_cons {sep s : String} {ss : List String} :
    (sep.intercalate (s :: ss)).toList = s.toList ++ ss.flatMap fun s => sep.toList ++ s.toList := by
  induction ss generalizing s
  case nil => simp
  case cons hi => simp [String.intercalate_cons_cons, hi]

section

variable {α : Type} {P : List Char → Prop} {as bs : List α}

theorem separated_append {sep : List Char} {text : α → List Char} (hs : ∀ z, P (sep ++ z))
    (hx : P x) : P ((as.flatMap fun a => sep ++ text a) ++ x) := by
  cases as
  case nil  => exact hx
  case cons => simpa using hs _

-- Where the items of a list are told apart, and the separator from what stands behind the list, the
-- whole list is.
theorem flatMap_separated_inj {sep : List Char} {text : α → List Char} (hs : ∀ z, P (sep ++ z))
    (hx : P x ∧ ¬sep <+: x) (hy : P y ∧ ¬sep <+: y)
    (inj : ∀ a ∈ as, ∀ b ∈ bs, ∀ x y, P x → P y → text a ++ x = text b ++ y → a = b ∧ x = y)
    (h : (as.flatMap fun a => sep ++ text a) ++ x = (bs.flatMap fun b => sep ++ text b) ++ y) :
    as = bs ∧ x = y := by
  induction as generalizing bs <;> cases bs <;>
    simp only [List.flatMap_cons, List.flatMap_nil, List.nil_append, List.append_assoc] at h
  case nil.nil             => exact ⟨rfl, h⟩
  case nil.cons            => exact absurd ⟨_, h.symm⟩ hx.right
  case cons.nil            => exact absurd ⟨_, h⟩ hy.right
  case cons.cons hi b bs   =>
    have h := List.append_cancel_left h
    have ⟨hab, h⟩ :=
      inj _ List.mem_cons_self _ List.mem_cons_self _ _
        (separated_append hs hx.left) (separated_append hs hy.left) h
    have ⟨hr, hxy⟩ := hi (fun a ha b hb => inj a (.tail _ ha) b (.tail _ hb)) h
    exact ⟨by rw [hab, hr], hxy⟩

theorem intercalate_inj {sep : String} {text : α → String} (ha : as ≠ []) (hb : bs ≠ [])
    (hs : ∀ z, P (sep.toList ++ z)) (hx : P x ∧ ¬sep.toList <+: x) (hy : P y ∧ ¬sep.toList <+: y)
    (inj : ∀ a ∈ as, ∀ b ∈ bs, ∀ x y, P x → P y →
      (text a).toList ++ x = (text b).toList ++ y → a = b ∧ x = y)
    (h : (sep.intercalate (as.map text)).toList ++ x =
      (sep.intercalate (bs.map text)).toList ++ y) : as = bs ∧ x = y := by
  cases as <;> cases bs <;> try contradiction
  case cons.cons a as b bs =>
    simp only [List.map_cons, toList_intercalate_cons, List.flatMap_map, List.append_assoc] at h
    have ⟨hab, h⟩ :=
      inj _ List.mem_cons_self _ List.mem_cons_self _ _
        (separated_append hs hx.left) (separated_append hs hy.left) h
    have ⟨hr, hxy⟩ :=
      flatMap_separated_inj hs hx hy (fun a ha b hb => inj a (.tail _ ha) b (.tail _ hb)) h
    exact ⟨by rw [hab, hr], hxy⟩

end

theorem Conjunction.renderEach_eq_map (terms : Conjunction) :
    renderEach terms = terms.map Term.render := by
  induction terms <;> simp_all [renderEach]

theorem renderEach_eq_map (alternatives : Filter) :
    renderEach alternatives =
    alternatives.map fun terms => " AND ".intercalate (terms.map Term.render) := by
  induction alternatives <;> simp_all [renderEach, Conjunction.renderEach_eq_map]

-- The terms of a filter decide where it ends if no blank stands behind it.
theorem Filter.append_inj {a b : Filter} (ha : a ≠ [] ∧ ∀ terms ∈ a, terms ≠ [])
    (hb : b ≠ [] ∧ ∀ terms ∈ b, terms ≠ []) (hx : x.head? ≠ some ' ') (hy : y.head? ≠ some ' ')
    (inj : ∀ terms ∈ a, ∀ s ∈ terms, ∀ terms' ∈ b, ∀ t ∈ terms', ∀ x y,
      s.render.toList ++ x = t.render.toList ++ y → s = t ∧ x = y)
    (h : a.render.toList ++ x = b.render.toList ++ y) : a = b ∧ x = y := by
  have hn {x : List Char} (hx : x.head? ≠ some ' ') :
      ¬" AND ".toList <+: x ∧ ¬" OR ".toList <+: x := by
    constructor <;> (rintro ⟨_, rfl⟩; simp at hx)
  simp only [render, renderEach_eq_map] at h
  refine intercalate_inj (P := fun z => ¬" AND ".toList <+: z)
    ha.left hb.left (by simp) (hn hx) (hn hy) ?alternatives h
  case alternatives =>
    intro terms hm terms' hm' x y hx hy h
    exact intercalate_inj (P := fun _ => True)
      (ha.right _ hm) (hb.right _ hm') (by simp) ⟨trivial, hx⟩ ⟨trivial, hy⟩
      (fun s hs t ht x y _ _ => inj terms hm s hs terms' hm' t ht x y) h

theorem Term.toList_render_condition {negated : Bool} {c : Condition} :
    (condition negated c).render.toList ++ x =
    (negationMark negated).toList ++ (c.render.toList ++ x) := by
  simp [render]

theorem Term.toList_render_group {negated : Bool} {f : Filter} :
    (group negated f).render.toList ++ x =
    (negationMark negated).toList ++ '(' :: (f.render.toList ++ ')' :: x) := by
  simp [render, Filter.render]

-- A term is read off the front of a text: it is clear where it ends, and which term it is. By induction on
-- how the first term was seen to be legible.
theorem Term.Legible.append_inj {s t : Term} (hs : s.Legible) (ht : t.Legible)
    (h : s.render.toList ++ x = t.render.toList ++ y) : s = t ∧ x = y := by
  induction hs generalizing t x y <;> cases ht <;>
    simp only [toList_render_condition, toList_render_group] at h
  case condition.condition hc _ _ hd =>
    have ⟨hm, h⟩ := OpensBody.mark_inj (.condition hc) (.condition hd) h
    have ⟨hcd, hxy⟩ := hc.append_inj hd h
    exact ⟨by rw [hm, hcd], hxy⟩
  case condition.group hc _ _ _ _ _ =>
    have ⟨_, h⟩ := OpensBody.mark_inj (.condition hc) .group h
    exact absurd h hc.append_ne_group
  case group.condition hd =>
    have ⟨_, h⟩ := OpensBody.mark_inj .group (.condition hd) h
    exact absurd h.symm hd.append_ne_group
  case group.group ha hn _ hi _ _ hb hn' ht =>
    have ⟨hm, h⟩ := OpensBody.mark_inj .group .group h
    have ⟨hf, h⟩ := Filter.append_inj ⟨ha, hn⟩ ⟨hb, hn'⟩ (by simp) (by simp)
      (fun _ hm _ hs _ hm' _ ht' _ _ => hi _ hm _ hs (ht _ hm' _ ht')) (List.cons.inj h).right
    exact ⟨by rw [hm, hf], (List.cons.inj h).right⟩

theorem Filter.eq_of_render_eq {a b : Filter} (ha : a.Legible) (hb : b.Legible)
    (h : a.render = b.render) : a = b := by
  have inj : ∀ terms ∈ a, ∀ s ∈ terms, ∀ terms' ∈ b, ∀ t ∈ terms', ∀ x y,
      s.render.toList ++ x = t.render.toList ++ y → s = t ∧ x = y :=
    fun _ hm _ hs _ hm' _ ht _ _ => (ha.terms _ hm _ hs).append_inj (hb.terms _ hm' _ ht)
  have hr : a.render.toList ++ [] = b.render.toList ++ [] := by rw [h]
  exact append_inj ha.nonempty hb.nonempty (by simp) (by simp) inj hr |>.left

-- NOT = "x\" AND (" AND NOT (env like ")" OR env != "")
theorem Filter.eq_of_render_eq_keyword_tag :
    let c : Condition := ⟨"NOT", "=", "x\" AND ("⟩
    let inner : Filter := [
      [.condition false ⟨"env", "like", ")"⟩],
      [.condition false ⟨"env", "!=", ""⟩]]
    let a : Filter := [[.condition false c, .group true inner]]
    let b : Filter := [[(Term.condition true c).negate, (Term.group false inner).negate]]
    a.Legible ∧ b.Legible ∧ a.render = b.render ∧ a = b := by
  intro c inner a b
  have hc : Term.Legible (.condition false c) := .condition (by decide +kernel)
  have hi : Term.Legible (.group true inner) := by
    refine .group (by simp [inner]) (by simp [inner]) ?terms
    simp only [inner, List.forall_mem_cons, List.not_mem_nil, false_imp_iff, implies_true, and_true]
    exact ⟨.condition (by decide +kernel), .condition (by decide +kernel)⟩
  have ha : a.Legible := ⟨by simp [a], by simp [a, hc, hi]⟩
  have hb : b.Legible := ⟨by simp [b], by simp [b, Term.negate, hc, hi]⟩
  have h : a.render = b.render := rfl
  exact ⟨ha, hb, h, eq_of_render_eq ha hb h⟩

end JournalSelect
