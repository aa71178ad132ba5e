import JournalSelect.Glob.Parser
import Mathlib.Data.List.Forall2

namespace JournalSelect.Glob

def Token.Takes : Token → Char → Prop
  | .literal l, c => c = l
  | .anyChar, c => c ≠ '/'
  | .charClass negated ranges, c => (∃ range ∈ ranges, range.1 ≤ c ∧ c ≤ range.2) ↔ negated = false

def Item.Takes : Item → List Char → Prop
  | .star, piece => '/' ∉ piece
  | .token t, piece => ∃ c, piece = [c] ∧ t.Takes c

-- The text falls into pieces, one for each item in order.
def Cut (items : List Item) (text : List Char) : Prop :=
  ∃ pieces, List.Forall₂ Item.Takes items pieces ∧ pieces.flatten = text

def Chunk.items (chunk : Chunk) : List Item :=
  (if chunk.star then [.star] else []) ++ chunk.tokens.map .token

def Pattern.items (p : Pattern) : List Item :=
  p.chunks.flatMap Chunk.items

def Pattern.Describes (p : Pattern) (text : String) : Prop :=
  Cut p.items text.toList

-- Where a chunk stands in a text.
structure Place where
  skipped : List Char
  taken : List Char

def Place.text (place : Place) : List Char :=
  place.skipped ++ place.taken

structure Chunk.StandsOn (chunk : Chunk) (place : Place) : Prop where
  skipped   : '/' ∉ place.skipped
  unstarred : chunk.star = false → place.skipped = []
  taken     : List.Forall₂ Token.Takes chunk.tokens place.taken

-- The chunks stand on consecutive places that make up the text. On each but the last one `Q` holds.
inductive Placement (Q : Chunk → Place → Prop) : List Chunk → List Char → Prop
  | last {chunk place} : chunk.StandsOn place → Placement Q [chunk] place.text
  | more {chunk next chunks place rest} :
    chunk.StandsOn place → Q chunk place → Placement Q (next :: chunks) rest →
    Placement Q (chunk :: next :: chunks) (place.text ++ rest)

variable {tokens : List Token} {chunk : Chunk} {text : List Char}

theorem Token.accepts_iff_takes {t : Token} {c : Char} : t.accepts c = true ↔ t.Takes c := by
  cases t
  case literal l => simp only [accepts, Takes, beq_iff_eq]; exact eq_comm
  case anyChar   => simp [accepts, Takes]
  case charClass negated ranges => cases negated <;> simp [accepts, Takes]

theorem cut_nil : Cut [] text ↔ text = [] := by
  simp [Cut, eq_comm]

theorem cut_append {items₁ items₂ : List Item} :
    Cut (items₁ ++ items₂) text ↔ ∃ x y, Cut items₁ x ∧ Cut items₂ y ∧ x ++ y = text := by
  constructor
  case mp =>
    intro ⟨pieces, hp, ht⟩
    have hp₁ := List.forall₂_take items₁.length hp
    have hp₂ := List.forall₂_drop items₁.length hp
    rw [List.take_left] at hp₁
    rw [List.drop_left] at hp₂
    refine ⟨_, _, ⟨_, hp₁, rfl⟩, ⟨_, hp₂, rfl⟩, ?_⟩
    rw [←List.flatten_append, List.take_append_drop, ht]
  case mpr =>
    intro ⟨x, y, ⟨pieces₁, hp₁, hx⟩, ⟨pieces₂, hp₂, hy⟩, ht⟩
    exact ⟨pieces₁ ++ pieces₂, List.rel_append hp₁ hp₂, by simp [hx, hy, ht]⟩

theorem cut_singleton {item : Item} : Cut [item] text ↔ item.Takes text := by
  constructor
  case mp =>
    intro ⟨pieces, hp, ht⟩
    have ⟨piece, _, hi, hn, he⟩ := List.forall₂_cons_left_iff.mp hp
    cases List.forall₂_nil_left_iff.mp hn
    simpa [←ht, he] using hi
  case mpr =>
    intro h
    exact ⟨[text], .cons h .nil, by simp⟩

theorem cut_cons {item : Item} {items : List Item} :
    Cut (item :: items) text ↔ ∃ x y, item.Takes x ∧ Cut items y ∧ x ++ y = text := by
  rw [←List.singleton_append, cut_append]
  simp only [cut_singleton]

theorem cut_tokens : Cut (tokens.map .token) text ↔ List.Forall₂ Token.Takes tokens text := by
  induction tokens generalizing text
  case nil => simp [cut_nil]
  case cons t tokens hi =>
    rw [List.map_cons, cut_cons, List.forall₂_cons_left_iff]
    constructor
    case mp =>
      intro ⟨x, y, ⟨c, hc, htc⟩, hy, ht⟩
      exact ⟨c, y, htc, hi.mp hy, by simp [←ht, hc]⟩
    case mpr =>
      intro ⟨c, y, htc, hy, ht⟩
      exact ⟨[c], y, ⟨c, rfl, htc⟩, hi.mpr hy, ht.symm⟩

theorem cut_star_star {items : List Item} :
    Cut (.star :: .star :: items) text ↔ Cut (.star :: items) text := by
  simp only [cut_cons]
  constructor
  case mp =>
    intro ⟨x₁, _, h₁, ⟨x₂, y, h₂, hy, hxy⟩, ht⟩
    refine ⟨x₁ ++ x₂, y, ?_, hy, by simp [←ht, ←hxy]⟩
    exact (List.mem_append.mp · |>.elim h₁ h₂)
  case mpr =>
    intro ⟨x, y, hx, hy, ht⟩
    exact ⟨x, y, hx, ⟨[], y, List.not_mem_nil, hy, rfl⟩, ht⟩

theorem Chunk.cut_items :
    Cut chunk.items text ↔ ∃ place, chunk.StandsOn place ∧ place.text = text := by
  cases hs : chunk.star <;> simp only [items, hs, cut_append, cut_tokens]
  case false =>
    constructor
    case mp =>
      intro ⟨x, y, hx, hy, ht⟩
      cases cut_nil.mp hx
      exact ⟨⟨[], y⟩, ⟨by simp, fun _ => rfl, hy⟩, ht⟩
    case mpr =>
      intro ⟨place, hp, ht⟩
      exact ⟨[], _, cut_nil.mpr rfl, hp.taken, by simp [←ht, Place.text, hp.unstarred hs]⟩
  case true =>
    constructor
    case mp =>
      intro ⟨x, y, hx, hy, ht⟩
      exact ⟨⟨x, y⟩, ⟨cut_singleton.mp hx, by simp [hs], hy⟩, ht⟩
    case mpr =>
      intro ⟨place, hp, ht⟩
      exact ⟨_, _, cut_singleton.mpr hp.skipped, hp.taken, ht⟩

theorem cut_prepend {item : Item} {chunks : List Chunk} :
    Cut ((item.prepend chunks).flatMap Chunk.items) text ↔
    Cut (item :: chunks.flatMap Chunk.items) text := by
  cases item <;> cases chunks
  case star.nil  => rfl
  case token.nil => rfl
  case star.cons chunk _ =>
    cases hs : chunk.star <;> simp [Item.prepend, Chunk.items, hs, cut_star_star]
  case token.cons chunk _ =>
    cases hs : chunk.star <;> simp [Item.prepend, Chunk.items, hs]

-- The arrangement in chunks keeps what the items say as they were written.
theorem describes_chunksOf {items : List Item} {text : String} :
    Pattern.Describes ⟨chunksOf items⟩ text ↔ Cut items text.toList := by
  rw [Pattern.Describes, Pattern.items]
  generalize text.toList = text
  induction items generalizing text
  case nil => rfl
  case cons item items hi =>
    rw [chunksOf, List.foldr_cons, ←chunksOf, cut_prepend, cut_cons, cut_cons]
    simp only [hi]

namespace Placement

variable {Q : Chunk → Place → Prop} {chunks : List Chunk}

theorem cut (h : Placement Q chunks text) : Cut (chunks.flatMap Chunk.items) text := by
  induction h
  case last hp =>
    simpa using Chunk.cut_items.mpr ⟨_, hp, rfl⟩
  case more hp _ _ hi =>
    rw [List.flatMap_cons]
    exact cut_append.mpr ⟨_, _, Chunk.cut_items.mpr ⟨_, hp, rfl⟩, hi, rfl⟩

-- `Q` has to be shown only for places inside the text.
theorem of_cut (hn : chunks ≠ []) (hc : Cut (chunks.flatMap Chunk.items) text)
    (hq : ∀ chunk ∈ chunks, ∀ place, chunk.StandsOn place → place.text ⊆ text → Q chunk place) :
    Placement Q chunks text := by
  induction chunks generalizing text
  case nil => contradiction
  case cons chunk chunks hi =>
    rw [List.flatMap_cons] at hc
    have ⟨x, y, hx, hy, ht⟩ := cut_append.mp hc
    have ⟨place, hp, hpx⟩ := Chunk.cut_items.mp hx
    subst ht hpx
    cases chunks
    case nil =>
      cases cut_nil.mp hy
      simpa using last hp
    case cons next chunks =>
      refine more hp (hq _ List.mem_cons_self _ hp (by simp)) (hi (by simp) hy ?_)
      intro chunk hm place hp hs
      exact hq _ (List.mem_cons_of_mem _ hm) _ hp (List.Subset.trans hs (by simp))

end Placement

end JournalSelect.Glob
