import JournalSelect.Proofs.Glob.Joining
import JournalSelect.Proofs.Glob.Matching
import Mathlib.Data.Set.List

namespace JournalSelect.Glob

def Token.Ranged : Token → Prop
  | .literal _ | .anyChar => True
  | .charClass _ ranges   => ranges ≠ []

structure Pattern.WellFormed (p : Pattern) : Prop where
  nonempty : p.chunks ≠ []
  starred  : ∀ chunk ∈ p.chunks.tail, chunk.star = true
  filled   : ∀ chunk ∈ p.chunks.dropLast, chunk.tokens ≠ []
  ranged   : ∀ chunk ∈ p.chunks, ∀ t ∈ chunk.tokens, t.Ranged

-- What is left of the chunks and of the text when `matchChunks` comes to its next chunk.
inductive Visits : List Chunk → List Char → List Chunk → List Char → Prop
  | start {chunks text} : Visits chunks text chunks text
  | next {chunk chunks after text rest left} :
    (chunk.star && chunk.tokens.isEmpty) = false → chunk.advance? chunks.isEmpty text = some rest →
    Visits chunks rest after left → Visits (chunk :: chunks) text after left

namespace Visits

variable {chunks after : List Chunk} {text left : List Char}

theorem matchChunks_eq (h : Visits chunks text after left) :
    matchChunks chunks text = matchChunks after left := by
  induction h
  case start           => rfl
  case next hs ha _ hi => rw [matchChunks, hs, ha, ←hi]; rfl

theorem suffix (h : Visits chunks text after left) : after <:+ chunks := by
  induction h
  case start     => exact List.suffix_refl _
  case next _ hi => exact hi.trans (List.suffix_cons ..)

end Visits

variable {chunk : Chunk} {chunks : List Chunk}

theorem chunksOf_tokens {tokens : List Token} : chunksOf (tokens.map .token) = [⟨false, tokens⟩] := by
  induction tokens
  case nil          => rfl
  case cons t ts hi => rw [List.map_cons, chunksOf_cons, hi]; rfl

theorem chunksOf_chunk : chunksOf chunk.items = [chunk] := by
  have ⟨star, tokens⟩ := chunk
  cases star
  case false => exact chunksOf_tokens
  case true  =>
    have hi : Chunk.items ⟨true, tokens⟩ = .star :: tokens.map .token := rfl
    rw [hi, chunksOf_cons, chunksOf_tokens]
    rfl

-- The arrangement undoes the flattening.
theorem chunksOf_items (h : Arranged chunks) : chunksOf (chunks.flatMap Chunk.items) = chunks := by
  induction h
  case last chunk      => rw [List.flatMap_singleton, chunksOf_chunk]
  case more hn hs _ hi =>
    rw [List.flatMap_cons, chunksOf_append, hi, chunksOf_chunk]
    simp [joinChunks, Chunk.meet, hs, hn]

-- Every character can be written with an escape.
def Written.Range.escaped (range : Char × Char) : Written.Range :=
  .between (.escaped range.1) (.escaped range.2)

theorem Token.Ranged.exists_written {t : Token} (h : t.Ranged) :
    ∃ i : Written.Item, i.item = .token t := by
  cases t
  case literal c                => exact ⟨.escaped c, rfl⟩
  case anyChar                  => exact ⟨.anyChar, rfl⟩
  case charClass negated ranges =>
    have ⟨_, _, hr⟩ := List.exists_cons_of_ne_nil h
    have hu : ((ranges.map Written.Range.escaped).flatMap Written.Range.text).head? ≠ some '^' := by
      simp [hr, Written.Range.escaped, Written.Range.text, Written.Member.text]
    have hb : (ranges.map Written.Range.escaped).map Written.Range.bounds = ranges := by
      rw [List.map_map]
      exact List.map_id _
    let c : Written.Class := {
      negated   := negated
      ranges    := ranges.map .escaped
      nonempty  := mt List.map_eq_nil_iff.mp h
      uncareted := fun _ => hu }
    exact ⟨.charClass c, congrArg (Item.token <| .charClass negated ·) hb⟩

theorem Token.ranged_of_written {t : Token} {i : Written.Item} (h : i.item = .token t) : t.Ranged := by
  cases i
  case star        => contradiction
  case charClass c =>
    cases h
    simp [Ranged, Written.Class.token, c.nonempty]
  all_goals
    cases h
    trivial

namespace Pattern

variable {s : String} {p : Pattern}

theorem WellFormed.arranged (h : p.WellFormed) : Arranged p.chunks :=
  arranged_iff.mpr ⟨h.nonempty, h.starred, h.filled⟩

theorem wellFormed_of_parse (h : parse s = .ok p) : p.WellFormed := by
  have ⟨hn, hs, ht⟩ := arranged_iff.mp (arranged_of_parse h)
  refine ⟨hn, hs, ht, fun chunk hc t ht => ?_⟩
  have ⟨items, hi, hp⟩ := parse_eq_ok_iff.mp h
  have ⟨w, hw, _⟩ := exists_items hi
  have hm := mem_items hc ht
  rw [hp] at hm
  have ⟨i, _, hi⟩ := List.mem_map.mp (hw ▸ mem_of_mem_items_chunksOf hm)
  exact Token.ranged_of_written hi

theorem WellFormed.exists_written (h : p.WellFormed) :
    ∃ w : Written.Pattern, w.map Written.Item.item = p.items := by
  have hi : ∀ item ∈ p.items, item ∈ Set.range Written.Item.item := by
    intro item hi
    cases item
    case star    => exact ⟨.star, rfl⟩
    case token t =>
      have ⟨chunk, hc, ht⟩ := List.mem_flatMap.mp hi
      have ht : t ∈ chunk.tokens := by simpa [Chunk.items] using ht
      exact (h.ranged chunk hc t ht).exists_written
  exact (Set.range_list_map Written.Item.item).ge hi

theorem WellFormed.exists_parse (h : p.WellFormed) : ∃ s, parse s = .ok p := by
  have ⟨w, hw⟩ := h.exists_written
  refine ⟨.ofList w.text, ?_⟩
  rw [parse_written (String.toList_ofList).symm, hw, items, chunksOf_items h.arranged]

theorem WellFormed.eq_nil_of_no_tokens {after : List Chunk} (h : p.WellFormed)
    (hs : chunk :: after <:+ p.chunks) (ht : chunk.tokens = []) : after = [] := by
  have ⟨before, hb⟩ := hs
  cases after
  case nil  => rfl
  case cons =>
    have hm : chunk ∈ p.chunks.dropLast := by simp [←hb]
    exact absurd ht (h.filled _ hm)

-- Which patterns there are. Matching one of them, a star that is alone decides on all that is left of the text,
-- and it stands at the end of the pattern.
theorem parse_yields_wellFormed (p : Pattern) :
    ((∃ s, parse s = .ok p) ↔ p.WellFormed) ∧
    (∀ s, parse s = .ok p → 1 ≤ p.chunks.length ∧
      ∀ text chunk after left, Visits p.chunks text.toList (chunk :: after) left →
        chunk.star = true → chunk.tokens = [] →
        after = [] ∧ p.chunks.getLast? = some chunk ∧ p.accepts text = !left.contains '/') := by
  refine ⟨⟨fun ⟨_, h⟩ => wellFormed_of_parse h, WellFormed.exists_parse⟩, fun s h => ?_⟩
  have hw := wellFormed_of_parse h
  refine ⟨List.length_pos_of_ne_nil hw.nonempty, ?_⟩
  intro text chunk after left hv hs ht
  have hn := hw.eq_nil_of_no_tokens hv.suffix ht
  subst hn
  refine ⟨rfl, ?_, ?_⟩
  · have ⟨_, hb⟩ := hv.suffix
    rw [←hb, List.getLast?_concat]
  · simp [accepts, hv.matchChunks_eq, matchChunks, hs, ht]

-- A range may start with a caret, and it may be the wrong way round.
theorem parse_yields_wellFormed_caret_range :
    let p : Pattern := ⟨[⟨false, [.charClass false [('^', 'a'), (']', '[')]]⟩, ⟨true, []⟩]⟩
    p.WellFormed ∧ (∃ s, parse s = .ok p) ∧
    Visits p.chunks "_x/".toList [⟨true, []⟩] "x/".toList ∧ p.accepts "_x/" = false := by
  intro p
  have hw : p.WellFormed := ⟨by simp [p], by simp [p], by simp [p], by simp [p, Token.Ranged]⟩
  have hv : Visits p.chunks "_x/".toList [⟨true, []⟩] "x/".toList := .next rfl (by decide) .start
  have ⟨hp, hm⟩ := parse_yields_wellFormed p
  have ⟨s, h⟩ := hp.mpr hw
  have ⟨_, _, ha⟩ := (hm s h).right _ _ _ _ hv rfl rfl
  exact ⟨hw, ⟨s, h⟩, hv, ha.trans (by decide)⟩

end Pattern

end JournalSelect.Glob
