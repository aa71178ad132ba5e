import JournalSelect.Proofs.Except
import JournalSelect.Proofs.Glob.Arrangement
import JournalSelect.Proofs.Glob.Grammar
import JournalSelect.Proofs.Glob.Language

namespace JournalSelect.Glob

open Written (Member Range)

variable {cs rest : List Char} {before ranges : List (Char × Char)}

theorem member?_text (m : Member) (hr : rest ≠ []) : member? (m.text ++ rest) = .ok (m.char, rest) := by
  have ⟨d, rest, hd⟩ := List.exists_cons_of_ne_nil hr
  cases m
  case bare c h  => simp [member?, Member.text, Member.char, hd, h]
  case escaped c => simp [member?, Member.text, Member.char, hd]

theorem exists_member {c : Char} (h : member? cs = .ok (c, rest)) :
    ∃ m : Member, m.char = c ∧ m.text ++ rest = cs ∧ rest ≠ [] := by
  cases cs <;> simp only [member?, reduceCtorEq] at h
  case cons d cs =>
    split at h
    case isTrue  => contradiction
    case isFalse hd =>
      split at h
      case isTrue he =>
        split at h <;> simp at h
        exact ⟨.escaped c, rfl, by simp [Member.text, he, h], by simp [←h]⟩
      case isFalse he =>
        split at h <;> simp at h
        exact ⟨.bare d (by grind), h.left, by simp [Member.text, h], by simp [←h.right]⟩

theorem ranges?_single (m : Member) (hn : rest ≠ []) (hr : rest.head? ≠ some '-') :
    ranges? before (m.text ++ rest) = ranges? ((m.char, m.char) :: before) rest := by
  have hm := member?_text m hn
  rw [ranges?.eq_def]
  split
  case h_1 h => simp [h, member?] at hm
  case h_2 h => exact absurd h (Range.append_ne_closed (r := .single m))
  case h_3   =>
    split
    case h_1 h => simp [hm] at h
    case h_2 h =>
      simp only [hm, Except.ok.injEq, Prod.mk.injEq] at h
      exact absurd (by simp [h.right]) hr
    case h_3 h => simp_all

theorem ranges?_hyphen (low : Member) :
    ranges? before (low.text ++ '-' :: cs) =
    member? cs >>= fun (high, rest) => ranges? ((low.char, high) :: before) rest := by
  have hl := member?_text low (List.cons_ne_nil '-' cs)
  rw [ranges?.eq_def]
  split
  case h_1 h => simp [h, member?] at hl
  case h_2 h => exact absurd h (Range.append_ne_closed (r := .single low))
  case h_3   =>
    split
    case h_1 h => simp [hl] at h
    case h_2 h =>
      simp only [hl, Except.ok.injEq, Prod.mk.injEq, List.cons.injEq, true_and] at h
      obtain ⟨rfl, rfl⟩ := h
      split <;> simp_all [bind, Except.bind]
    case h_3 h => simp_all

theorem ranges?_between (low high : Member) (hn : rest ≠ []) :
    ranges? before (low.text ++ '-' :: (high.text ++ rest)) =
    ranges? ((low.char, high.char) :: before) rest := by
  rw [ranges?_hyphen, member?_text high hn]
  rfl

theorem ranges?_range (r : Range) (hn : rest ≠ []) (hr : rest.head? ≠ some '-') :
    ranges? before (r.text ++ rest) = ranges? (r.bounds :: before) rest := by
  cases r
  case single m         => exact ranges?_single m hn hr
  case between low high => simpa [Range.text, Range.bounds] using ranges?_between low high hn

theorem ranges?_text {rs : List Range} (h : before ≠ [] ∨ rs ≠ []) :
    ranges? before (rs.flatMap Range.text ++ ']' :: rest) =
    .ok (before.reverse ++ rs.map Range.bounds, rest) := by
  induction rs generalizing before
  case nil          => simpa [ranges?] using h
  case cons r rs hi =>
    rw [List.flatMap_cons, List.append_assoc, ranges?_range r (by simp) Range.head?_ranges_ne]
    simp [hi]

theorem exists_ranges (h : ranges? before cs = .ok (ranges, rest)) :
    ∃ rs : List Range, before.reverse ++ rs.map Range.bounds = ranges ∧
      rs.flatMap Range.text ++ ']' :: rest = cs ∧ (before ≠ [] ∨ rs ≠ []) := by
  fun_induction ranges? before cs <;> try contradiction
  case case3 he =>
    simp at h he
    exact ⟨[], by simp [h], by simp [h], .inl he⟩
  case case6 hl _ _ hh _ _ hi =>
    obtain ⟨low, hlow, hlt, _⟩ := exists_member hl
    obtain ⟨high, hhigh, hht, _⟩ := exists_member hh
    obtain ⟨rs, hb, ht, _⟩ := hi h
    exact ⟨.between low high :: rs, by simp [←hb, Range.bounds, hlow, hhigh],
      by simp [←hlt, ←hht, ←ht, Range.text], .inr (by simp)⟩
  case case7 hm _ hi =>
    obtain ⟨m, hc, ht, _⟩ := exists_member hm
    obtain ⟨rs, hb, hrs, _⟩ := hi h
    exact ⟨.single m :: rs, by simp [←hb, Range.bounds, hc], by simp [←ht, ←hrs, Range.text],
      .inr (by simp)⟩

theorem class?_text (c : Written.Class) : class? (c.text ++ ']' :: rest) = .ok (c.token, rest) := by
  have hr : ranges? [] (c.ranges.flatMap Range.text ++ ']' :: rest) = _ :=
    ranges?_text (.inr c.nonempty)
  cases hn : c.negated <;>
    simp only [Written.Class.text, Written.Class.mark, Written.Class.token, hn]
  case true  => simp [class?, classFrom?, hr]
  case false =>
    rw [class?.eq_def]
    split
    case h_2   => simp [classFrom?, hr]
    case h_1 h =>
      have hc := c.uncareted hn
      cases ht : c.ranges.flatMap Range.text <;> simp_all

theorem exists_ranges_of_classFrom? {negated : Bool} {t : Token}
    (h : classFrom? negated cs = .ok (t, rest)) :
    ∃ rs : List Range, .charClass negated (rs.map Range.bounds) = t ∧
      rs.flatMap Range.text ++ ']' :: rest = cs ∧ rs ≠ [] := by
  cases he : ranges? [] cs <;> simp [classFrom?, he] at h
  case ok =>
    obtain ⟨rs, hb, ht, hn⟩ := exists_ranges he
    exact ⟨rs, by simpa [←hb] using h.left, by simpa [←h.right] using ht, by simpa using hn⟩

theorem exists_class {t : Token} (h : class? cs = .ok (t, rest)) :
    ∃ c : Written.Class, c.token = t ∧ c.text ++ ']' :: rest = cs := by
  unfold class? at h
  split at h <;> obtain ⟨rs, ht, hc, hn⟩ := exists_ranges_of_classFrom? h
  case h_1 =>
    exact ⟨⟨true, rs, hn, nofun⟩, ht, by simp [Written.Class.text, Written.Class.mark, hc]⟩
  case h_2 hb =>
    have hu (hh : (rs.flatMap Range.text).head? = some '^') : False := by
      obtain ⟨_, hh⟩ := List.head?_eq_some_iff.mp hh
      exact hb _ (by rw [←hc, hh, List.cons_append])
    exact ⟨⟨false, rs, hn, fun _ => hu⟩, ht, by simp [Written.Class.text, Written.Class.mark, hc]⟩

theorem items?_item (i : Written.Item) :
    items? (i.text ++ rest) = (items? rest).map (i.item :: ·) := by
  cases i
  case star | anyChar | escaped => simp [Written.Item.text, Written.Item.item, items?]
  case bare c h                 => simp [Written.Item.text, Written.Item.item, items?, h]
  case charClass c              =>
    have hc : class? (c.text ++ ']' :: rest) = _ := class?_text c
    simp only [Written.Item.text, List.cons_append, List.append_assoc, List.nil_append]
    rw [items?]
    split <;> simp_all [Written.Item.item]

theorem items?_text (w : Written.Pattern) : items? w.text = .ok (w.map Written.Item.item) := by
  induction w
  case nil         => simp [Written.Pattern.text, items?]
  case cons i w hi =>
    rw [Written.Pattern.text, List.flatMap_cons, items?_item, ←Written.Pattern.text, hi]
    rfl

theorem exists_items_cons (i : Written.Item) {items : List Item}
    (hr : ∀ {items}, items? rest = .ok items →
      ∃ w : Written.Pattern, w.map Written.Item.item = items ∧ w.text = rest)
    (h : (items? rest).map (i.item :: ·) = .ok items) :
    ∃ w : Written.Pattern, w.map Written.Item.item = items ∧ w.text = i.text ++ rest := by
  have ⟨items, hi, he⟩ := map_eq_ok_iff.mp h
  have ⟨w, hw, ht⟩ := hr hi
  exact ⟨i :: w, by simp [hw, he], by simp [Written.Pattern.text, ←ht]⟩

theorem exists_items {items : List Item} (h : items? cs = .ok items) :
    ∃ w : Written.Pattern, w.map Written.Item.item = items ∧ w.text = cs := by
  fun_induction items? cs generalizing items
  case case1         => exact ⟨[], by simpa using h, rfl⟩
  case case2 hi      => exact exists_items_cons .star hi h
  case case3 hi      => exact exists_items_cons .anyChar hi h
  case case4 | case6 => contradiction
  case case5 c _ hi  => exact exists_items_cons (.escaped c) hi h
  case case7 hc _ hi =>
    have ⟨c, ht, hr⟩ := exists_class hc
    have := exists_items_cons (.charClass c) hi (by rwa [Written.Item.item, ht])
    simpa [Written.Item.text, ←hr] using this
  case case8 c rest h₁ h₂ h₃ h₄ h₅ hi =>
    have hb : c ≠ '\\' := by cases rest <;> simp_all
    exact exists_items_cons (.bare c ⟨h₁, h₂, hb, h₅⟩) hi h

-- Stars in a row become one.
def mergeStars : List Item → List Item
  | [] => []
  | item :: items =>
    if item = .star ∧ items.head? = some .star then mergeStars items else item :: mergeStars items

theorem chunksOf_cons {item : Item} {items : List Item} :
    chunksOf (item :: items) = item.prepend (chunksOf items) :=
  rfl

theorem exists_head_chunksOf (items : List Item) : ∃ chunk chunks,
    chunksOf items = chunk :: chunks ∧ (chunk.star = true ↔ items.head? = some .star) := by
  induction items
  case nil                => exact ⟨_, _, rfl, by simp⟩
  case cons item items hi =>
    have ⟨chunk, chunks, hc, _⟩ := hi
    rw [chunksOf_cons, hc]
    cases item
    case star  => exact ⟨_, _, rfl, by simp⟩
    case token => cases hs : chunk.star <;> simp [Item.prepend, hs]

theorem items_chunksOf (items : List Item) :
    (chunksOf items).flatMap Chunk.items = mergeStars items := by
  induction items
  case nil                => rfl
  case cons item items hi =>
    have ⟨chunk, chunks, hc, hs⟩ := exists_head_chunksOf items
    rw [chunksOf_cons, mergeStars, ←hi, hc]
    cases item <;> cases hb : chunk.star <;> simp_all [Item.prepend, Chunk.items]

theorem mergeStars_sublist (items : List Item) : (mergeStars items).Sublist items := by
  fun_induction mergeStars items
  case case1      => exact .slnil
  case case2 hi   => exact .cons _ hi
  case case3 hi   => exact .cons_cons _ hi

namespace Pattern

theorem mem_of_mem_items_chunksOf {item : Item} {items : List Item}
    (h : item ∈ Pattern.items ⟨chunksOf items⟩) : item ∈ items :=
  (mergeStars_sublist items).mem <| items_chunksOf items ▸ h

theorem parse_written {s : String} {w : Written.Pattern} (h : w.text = s.toList) :
    parse s = .ok ⟨chunksOf (w.map Written.Item.item)⟩ :=
  parse_eq_ok_iff.mpr ⟨_, h ▸ items?_text w, rfl⟩

-- Which texts are read, that they are written in one way only, and what is read from them.
theorem parse_reads_written_items (s : String) :
    ((∃ p, parse s = .ok p) ↔ ∃ w : Written.Pattern, w.text = s.toList) ∧
    (∀ w v : Written.Pattern, w.text = s.toList → v.text = s.toList → w = v) ∧
    (∀ p (w : Written.Pattern), parse s = .ok p → w.text = s.toList →
      p.items = mergeStars (w.map Written.Item.item)) := by
  refine ⟨⟨?_, ?_⟩, ?_, ?_⟩
  · intro ⟨p, hp⟩
    have ⟨_, hi, _⟩ := parse_eq_ok_iff.mp hp
    have ⟨w, _, ht⟩ := exists_items hi
    exact ⟨w, ht⟩
  · intro ⟨w, ht⟩
    exact ⟨_, parse_written ht⟩
  · intro w v hw hv
    exact Written.Pattern.text_injective (hw.trans hv.symm)
  · intro p w hp ht
    cases hp.symm.trans (parse_written ht)
    exact items_chunksOf _

theorem parse_reads_written_items_class_and_stars :
    ∃ p, parse "[^^\\]-a]**\\*]" = .ok p ∧ p.items = [
      .token (.charClass true [('^', '^'), (']', 'a')]), .star, .token (.literal '*'),
      .token (.literal ']')] := by
  let ranges : List Range :=
    [.single (.bare '^' (by decide)), .between (.escaped ']') (.bare 'a' (by decide))]
  let w : Written.Pattern :=
    [.charClass ⟨true, ranges, nofun, nofun⟩, .star, .star, .escaped '*', .bare ']' (by decide)]
  have ht : w.text = "[^^\\]-a]**\\*]".toList := by decide
  have ⟨hp, _, hi⟩ := parse_reads_written_items "[^^\\]-a]**\\*]"
  have ⟨p, hp⟩ := hp.mpr ⟨w, ht⟩
  exact ⟨p, hp, (hi p w hp ht).trans (by decide)⟩

end Pattern

end JournalSelect.Glob
