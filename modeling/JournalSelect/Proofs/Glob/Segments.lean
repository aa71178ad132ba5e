import JournalSelect.Proofs.Glob.Joining
import JournalSelect.Proofs.Glob.Leftmost
import JournalSelect.Proofs.Text.Quoted

namespace JournalSelect.Glob

-- The chunk fits no shorter beginning of the text.
def Chunk.Shortest (chunk : Chunk) (text : List Char) : Prop :=
  ∀ shorter, Cut chunk.items shorter → shorter <+: text → shorter = text

-- A written slash and the tokens behind it, as a chunk or at the end of one.
def Chunk.slash (tokens : List Token) : Chunk where
  star := false
  tokens := .literal '/' :: tokens

def Chunk.slashed (chunk : Chunk) (tokens : List Token) : Chunk where
  star := chunk.star
  tokens := chunk.tokens ++ .literal '/' :: tokens

variable {chunk : Chunk} {chunks : List Chunk} {tokens : List Token} {text v w : List Char}

theorem matchChunks_singleton_iff : matchChunks [chunk] text = true ↔ Cut chunk.items text :=
  matchChunks_singleton.trans Chunk.cut_items.symm

theorem matchChunks_cons_iff (h : chunks ≠ [] → chunk.tokens ≠ []) :
    matchChunks (chunk :: chunks) text = true ↔
    ∃ taken rest, Cut chunk.items taken ∧ (chunks ≠ [] → chunk.Shortest taken) ∧
      taken ++ rest = text ∧ matchChunks chunks rest = true := by
  cases chunks
  case nil =>
    have hn {rest} : matchChunks [] rest = true ↔ rest = [] := List.isEmpty_iff
    simp [matchChunks_singleton_iff, hn]
  case cons =>
    rw [matchChunks_cons (h (by simp))]
    constructor
    case mp =>
      intro ⟨place, rest, hp, hl, ht, hm⟩
      refine ⟨place.text, rest, Chunk.cut_items.mpr ⟨place, hp, rfl⟩, ?_, ht, hm⟩
      intro _ shorter hc hs
      have ⟨earlier, he, hte⟩ := Chunk.cut_items.mp hc
      exact hte ▸ hl earlier he (hte ▸ hs)
    case mpr =>
      intro ⟨taken, rest, hc, hs, ht, hm⟩
      have ⟨place, hp, htp⟩ := Chunk.cut_items.mp hc
      refine ⟨place, rest, hp, ?_, htp ▸ ht, hm⟩
      intro earlier he hpre
      exact htp ▸ hs (by simp) _ (Chunk.cut_items.mpr ⟨earlier, he, rfl⟩) (htp ▸ hpre)

theorem slash_not_mem_of_cut {items : List Item} (h : Cut items text)
    (hi : ∀ t, .token t ∈ items → ¬t.Takes '/') : '/' ∉ text := by
  induction items generalizing text
  case nil => simp [cut_nil.mp h]
  case cons item items hr =>
    have ⟨x, y, hx, hy, ht⟩ := cut_cons.mp h
    have hy := hr hy fun t hm => hi t (List.mem_cons_of_mem _ hm)
    subst ht
    cases item
    case star    => exact List.not_mem_append hx hy
    case token t =>
      have ⟨c, hc, htc⟩ := hx
      have hs : '/' ≠ c := fun he => hi t List.mem_cons_self (he ▸ htc)
      simp [hc, hs, hy]

-- What holds no slash ends before the first one.
theorem exists_append_of_append_slash {taken rest : List Char} (hn : '/' ∉ taken)
    (h : taken ++ rest = v ++ '/' :: w) : ∃ left, taken ++ left = v ∧ left ++ '/' :: w = rest := by
  cases List.append_eq_append_iff.mp h
  case inl h => have ⟨left, hv, hr⟩ := h; exact ⟨left, hv.symm, hr.symm⟩
  case inr h =>
    have ⟨beyond, ht, hw⟩ := h
    cases beyond
    case nil  => exact ⟨[], by simpa using ht, hw⟩
    case cons =>
      simp only [List.cons_append, List.cons.injEq] at hw
      simp [ht, ←hw.left] at hn

namespace Chunk

theorem cut_slash : Cut (slash tokens).items text ↔
    ∃ behind, Cut (tokens.map .token) behind ∧ text = '/' :: behind := by
  have he : (slash tokens).items = .token (.literal '/') :: tokens.map .token := by
    simp [items, slash]
  rw [he, cut_cons]
  simp only [Item.Takes, Token.Takes]
  grind

theorem cut_slashed : Cut (chunk.slashed tokens).items text ↔
    ∃ before behind, Cut chunk.items before ∧ Cut (tokens.map .token) behind ∧
      before ++ '/' :: behind = text := by
  have he : (chunk.slashed tokens).items = chunk.items ++ (slash tokens).items := by
    cases hs : chunk.star <;> simp [items, slashed, slash, hs]
  rw [he, cut_append]
  simp only [cut_slash]
  grind

-- The chunk before the slash leaves no choice: it fits what stands before the first slash of a text.
theorem shortest_slashed_iff {behind : List Char} (hs : ∀ t, .token t ∈ chunk.items → ¬t.Takes '/')
    (hv : Cut chunk.items v) :
    (chunk.slashed tokens).Shortest (v ++ '/' :: behind) ↔ (slash tokens).Shortest ('/' :: behind) := by
  constructor
  case mp =>
    intro h shorter hc hp
    have ⟨left, hl, he⟩ := cut_slash.mp hc
    subst he
    have hp := List.prefix_append_right_inj v |>.mpr hp
    exact List.append_cancel_left <| h _ (cut_slashed.mpr ⟨v, left, hv, hl, rfl⟩) hp
  case mpr =>
    intro h shorter hc ⟨tail, ht⟩
    have ⟨before, left, hb, hl, he⟩ := cut_slashed.mp hc
    subst he
    rw [List.append_assoc, List.cons_append] at ht
    have hn {x} (hx : Cut chunk.items x) := slash_not_mem_of_cut hx hs
    have ⟨hbv, ht⟩ := Text.append_mark_inj (hn hb) (hn hv) ht
    rw [hbv, h _ (cut_slash.mpr ⟨left, hl, rfl⟩) ⟨tail, by simp [ht]⟩]

theorem meet_slash : chunk.meet (slash tokens) = [chunk.slashed tokens] := by
  simp [meet, slash, slashed]

end Chunk

section

variable {others : List Chunk}

theorem matchChunks_slashed (hs : ∀ t, .token t ∈ chunk.items → ¬t.Takes '/') (hv : '/' ∉ v) :
    matchChunks (chunk.slashed tokens :: others) (v ++ '/' :: w) = true ↔
    matchChunks [chunk] v = true ∧ matchChunks (.slash tokens :: others) ('/' :: w) = true := by
  rw [matchChunks_singleton_iff, matchChunks_cons_iff (by simp [Chunk.slashed]),
    matchChunks_cons_iff (by simp [Chunk.slash])]
  constructor
  case mp =>
    intro ⟨taken, rest, hc, hl, ht, hm⟩
    obtain ⟨before, behind, hb, hbh, rfl⟩ := Chunk.cut_slashed.mp hc
    rw [List.append_assoc, List.cons_append] at ht
    have ⟨hbv, hw⟩ := Text.append_mark_inj (slash_not_mem_of_cut hb hs) hv ht
    subst hbv hw
    have hl ho := Chunk.shortest_slashed_iff hs hb |>.mp (hl ho)
    exact ⟨hb, '/' :: behind, rest, Chunk.cut_slash.mpr ⟨behind, hbh, rfl⟩, hl, rfl, hm⟩
  case mpr =>
    intro ⟨hb, taken, rest, hc, hl, ht, hm⟩
    obtain ⟨behind, hbh, rfl⟩ := Chunk.cut_slash.mp hc
    have hc := Chunk.cut_slashed.mpr ⟨v, behind, hb, hbh, rfl⟩
    have hl ho := Chunk.shortest_slashed_iff hs hb |>.mpr (hl ho)
    exact ⟨v ++ '/' :: behind, rest, hc, hl, by rw [List.append_assoc, ht], hm⟩

theorem matchChunks_joinChunks_slash (ha : Arranged chunks)
    (hs : ∀ t, .token t ∈ chunks.flatMap Chunk.items → ¬t.Takes '/') (hv : '/' ∉ v) :
    matchChunks (joinChunks chunks (.slash tokens :: others)) (v ++ '/' :: w) = true ↔
    matchChunks chunks v = true ∧ matchChunks (.slash tokens :: others) ('/' :: w) = true := by
  induction ha generalizing v
  case last =>
    rw [joinChunks, Chunk.meet_slash]
    exact matchChunks_slashed (by simpa using hs) hv
  case more chunk next chunks hn _ _ hi =>
    rw [List.flatMap_cons] at hs
    have hc {x} (hc : Cut chunk.items x) :=
      slash_not_mem_of_cut hc fun t hm => hs t (List.mem_append_left _ hm)
    have hi {v} := hi (v := v) fun t hm => hs t (List.mem_append_right _ hm)
    rw [joinChunks_cons, matchChunks_cons_iff fun _ => hn, matchChunks_cons_iff fun _ => hn]
    constructor
    case mp =>
      rintro ⟨taken, rest, ht, hl, he, hm⟩
      obtain ⟨left, rfl, rfl⟩ := exists_append_of_append_slash (hc ht) he
      obtain ⟨hm, hw⟩ := hi (hv <| List.mem_append_right _ ·) |>.mp hm
      exact ⟨⟨taken, left, ht, fun _ => hl joinChunks_ne_nil, rfl, hm⟩, hw⟩
    case mpr =>
      rintro ⟨⟨taken, left, ht, hl, rfl, hm⟩, hw⟩
      have hm := hi (hv <| List.mem_append_right _ ·) |>.mpr ⟨hm, hw⟩
      exact ⟨taken, _, ht, fun _ => hl (by simp), by simp, hm⟩

theorem exists_chunksOf_slash (items : List Item) : ∃ tokens others,
    chunksOf (.token (.literal '/') :: items) = .slash tokens :: others ∧
    ∀ w, matchChunks (.slash tokens :: others) ('/' :: w) = matchChunks (chunksOf items) w := by
  have ⟨chunk, chunks, hc, _⟩ := exists_head_chunksOf items
  rw [chunksOf_cons, hc]
  cases hs : chunk.star
  case true =>
    refine ⟨[], chunk :: chunks, by simp [Item.prepend, Chunk.slash, hs], ?_⟩
    intro w
    rw [matchChunks]
    simp [Chunk.advance?, Chunk.slash, stripAs?, strip?, Token.accepts, Option.filter]
  case false =>
    refine ⟨chunk.tokens, chunks, by simp [Item.prepend, Chunk.slash, hs], ?_⟩
    intro w
    simp [matchChunks, Chunk.advance?, Chunk.slash, stripAs?, strip?, Token.accepts, hs]

variable {xs ys : List Item}

theorem matchChunks_chunksOf_slash (hs : ∀ t, .token t ∈ (chunksOf xs).flatMap Chunk.items → ¬t.Takes '/')
    (hv : '/' ∉ v) :
    matchChunks (chunksOf (xs ++ .token (.literal '/') :: ys)) (v ++ '/' :: w) = true ↔
    matchChunks (chunksOf xs) v = true ∧ matchChunks (chunksOf ys) w = true := by
  have ⟨tokens, others, hc, hw⟩ := exists_chunksOf_slash ys
  rw [chunksOf_append, hc, matchChunks_joinChunks_slash (arranged_chunksOf xs) hs hv, hw]

theorem slash_mem_of_matchChunks
    (h : matchChunks (chunksOf (xs ++ .token (.literal '/') :: ys)) text = true) : '/' ∈ text := by
  have hc := matchChunks_iff_leftmost (arranged_chunksOf _) |>.mp h |>.cut
  have hd : Pattern.Describes ⟨chunksOf (xs ++ .token (.literal '/') :: ys)⟩ (String.ofList text) := by
    simpa [Pattern.Describes, Pattern.items] using hc
  obtain ⟨_, _, _, hy, ht⟩ := cut_append.mp <| describes_chunksOf.mp hd
  obtain ⟨_, _, ⟨c, hx, rfl⟩, _, rfl⟩ := cut_cons.mp hy
  rw [String.toList_ofList] at ht
  simp [←ht, hx]

end

namespace Pattern

variable {s t : String} {p q : Pattern}

theorem parse_append_slash (hp : parse s = .ok p) (hq : parse t = .ok q) :
    ∃ xs ys, p = ⟨chunksOf xs⟩ ∧ q = ⟨chunksOf ys⟩ ∧
      parse (s ++ "/" ++ t) = .ok ⟨chunksOf (xs ++ .token (.literal '/') :: ys)⟩ := by
  have ⟨xs, hx, hp⟩ := parse_eq_ok_iff.mp hp
  have ⟨ys, hy, hq⟩ := parse_eq_ok_iff.mp hq
  refine ⟨xs, ys, hp, hq, parse_eq_ok_iff.mpr ⟨_, ?_, rfl⟩⟩
  have hs : items? ('/' :: t.toList) = .ok (.token (.literal '/') :: ys) := by
    simp [items?, hy, Except.map]
  simp [items?_append hx, hs, Except.map]

-- A pattern that takes no slash, a slash, and any pattern behind it. Neither part knows of the other,
-- although the chunks on both sides of the slash have become one.
theorem accepts_segment_and_rest (hp : parse s = .ok p) (hq : parse t = .ok q)
    (hs : ∀ token, .token token ∈ p.items → ¬token.Takes '/') :
    ∃ r, parse (s ++ "/" ++ t) = .ok r ∧
      (∀ v w : String, '/' ∉ v.toList →
        (r.accepts (v ++ "/" ++ w) = true ↔ p.accepts v = true ∧ q.accepts w = true)) ∧
      (∀ v : String, '/' ∉ v.toList → r.accepts v = false) := by
  have ⟨xs, ys, hx, hy, hr⟩ := parse_append_slash hp hq
  subst hx hy
  refine ⟨_, hr, ?_, ?_⟩
  · intro v w hv
    have ht : (v ++ "/" ++ w).toList = v.toList ++ '/' :: w.toList := by simp
    simp only [accepts, ht]
    exact matchChunks_chunksOf_slash hs hv
  · intro v hv
    exact Bool.eq_false_iff.mpr (hv <| slash_mem_of_matchChunks ·)

-- The second pattern is one that misses a text it describes. Behind a slash it misses the same text.
theorem accepts_segment_and_rest_missed_text :
    ∃ p q r, parse "l?g*" = .ok p ∧ parse "*[^x]*" = .ok q ∧ parse "l?g*/*[^x]*" = .ok r ∧
      (∀ token, .token token ∈ p.items → ¬token.Takes '/') ∧ '/' ∉ "logs".toList ∧
      p.accepts "logs" = true ∧
      q.accepts "ab" = true ∧ r.accepts "logs/ab" = true ∧
      q.accepts "a/" = false ∧ r.accepts "logs/a/" = false ∧
      r.accepts "logs" = false := by
  have hp : parse "l?g*" =
      .ok ⟨[⟨false, [.literal 'l', .anyChar, .literal 'g']⟩, ⟨true, []⟩]⟩ := by decide +kernel
  have hq : parse "*[^x]*" = .ok ⟨[⟨true, [.charClass true [('x', 'x')]]⟩, ⟨true, []⟩]⟩ := by
    decide +kernel
  have hs : ∀ token, .token token ∈
      items ⟨[⟨false, [.literal 'l', .anyChar, .literal 'g']⟩, ⟨true, []⟩]⟩ → ¬token.Takes '/' := by
    simp [items, Chunk.items, Token.Takes]
  have hv : '/' ∉ "logs".toList := by decide
  obtain ⟨r, hr, ha, hn⟩ := accepts_segment_and_rest hp hq hs
  have hy : r.accepts "logs/ab" = true := (ha "logs" "ab" hv).mpr (by decide)
  have hm : r.accepts "logs/a/" = false :=
    Bool.eq_false_iff.mpr fun h => absurd ((ha "logs" "a/" hv).mp h).right (by decide)
  exact ⟨_, _, r, hp, hq, hr, hs, hv, by decide, by decide, hy, by decide, hm, hn "logs" hv⟩

end Pattern

end JournalSelect.Glob
