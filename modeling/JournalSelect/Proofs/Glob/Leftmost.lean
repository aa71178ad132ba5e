import JournalSelect.Proofs.Glob.Arrangement
import JournalSelect.Proofs.Glob.Language

namespace JournalSelect.Glob

-- The chunk stands on no shorter beginning of the place.
def Chunk.Leftmost (chunk : Chunk) (place : Place) : Prop :=
  ∀ earlier, chunk.StandsOn earlier → earlier.text <+: place.text → earlier.text = place.text

variable {tokens : List Token} {text rest : List Char}

theorem strip?_eq_some_iff :
    strip? tokens text = some rest ↔
    ∃ taken, List.Forall₂ Token.Takes tokens taken ∧ taken ++ rest = text := by
  fun_induction strip? tokens text
  case case1 => simp [eq_comm]
  case case2 t tokens =>
    simp only [reduceCtorEq, false_iff, not_exists, not_and]
    intro taken h
    cases h
    simp
  case case3 t tokens c text ha hi =>
    rw [hi]
    constructor
    case mp =>
      intro ⟨taken, ht, he⟩
      exact ⟨c :: taken, .cons (Token.accepts_iff_takes.mp ha) ht, by simp [he]⟩
    case mpr =>
      intro ⟨taken, ht, he⟩
      cases ht
      case cons ht =>
        simp only [List.cons_append, List.cons.injEq] at he
        exact ⟨_, ht, he.right⟩
  case case4 t tokens c text ha =>
    simp only [reduceCtorEq, false_iff, not_exists, not_and]
    intro taken ht he
    cases ht
    case cons hc _ =>
      simp only [List.cons_append, List.cons.injEq] at he
      exact ha (he.left ▸ Token.accepts_iff_takes.mpr hc)

theorem stripAs?_eq_some_iff {last : Bool} :
    stripAs? last tokens text = some rest ↔
    (∃ taken, List.Forall₂ Token.Takes tokens taken ∧ taken ++ rest = text) ∧
    (last = true → rest = []) := by
  rw [←strip?_eq_some_iff]
  cases last <;> simp [stripAs?]

namespace Chunk

variable {chunk : Chunk} {place earlier : Place} {last : Bool}

theorem StandsOn.length_taken (hp : chunk.StandsOn place) :
    place.taken.length = chunk.tokens.length :=
  hp.taken.length_eq.symm

theorem StandsOn.leftmost_of_unskipped (hp : chunk.StandsOn place) (hs : place.skipped = []) :
    chunk.Leftmost place := by
  intro earlier he hpre
  apply hpre.eq_of_length_le
  simp [Place.text, hs, hp.length_taken, he.length_taken]

theorem StandsOn.extend {gap} (hp : chunk.StandsOn place) (hs : chunk.star = true) (hg : '/' ∉ gap) :
    chunk.StandsOn ⟨gap ++ place.skipped, place.taken⟩ where
  skipped   := by simp [hg, hp.skipped]
  unstarred := by simp [hs]
  taken     := hp.taken

theorem StandsOn.unskip {c skipped taken} (hp : chunk.StandsOn ⟨c :: skipped, taken⟩) :
    chunk.StandsOn ⟨skipped, taken⟩ where
  skipped   := (hp.skipped <| List.mem_cons_of_mem _ ·)
  unstarred := (nomatch hp.unstarred ·)
  taken     := hp.taken

-- With one more character before it, a place is still the leftmost one unless the chunk stands right at
-- that character.
theorem Leftmost.skip {c} (hl : chunk.Leftmost place)
    (hn : stripAs? false chunk.tokens (c :: (place.text ++ rest)) = none) :
    chunk.Leftmost ⟨c :: place.skipped, place.taken⟩ := by
  intro ⟨skipped, taken⟩ he ⟨tail, ht⟩
  cases skipped
  case nil =>
    have hs : stripAs? false chunk.tokens (c :: (place.text ++ rest)) = some (tail ++ rest) := by
      refine stripAs?_eq_some_iff.mpr ⟨⟨taken, he.taken, ?_⟩, nofun⟩
      simpa [Place.text] using congrArg (· ++ rest) ht
    cases hn.symm.trans hs
  case cons d skipped =>
    simp only [Place.text, List.cons_append, List.cons.injEq] at ht ⊢
    exact ⟨ht.left, hl _ he.unskip ⟨tail, ht.right⟩⟩

theorem standsOn_of_stripAs? (h : stripAs? last chunk.tokens text = some rest) :
    ∃ place, chunk.StandsOn place ∧ place.text ++ rest = text ∧ (last = true → rest = []) ∧
      (last = false → chunk.Leftmost place) := by
  have ⟨⟨taken, ht, he⟩, hl⟩ := stripAs?_eq_some_iff.mp h
  have hp : chunk.StandsOn ⟨[], taken⟩ := ⟨by simp, fun _ => rfl, ht⟩
  exact ⟨_, hp, he, hl, fun _ => hp.leftmost_of_unskipped rfl⟩

theorem standsOn_of_seek? (hs : chunk.star = true) (h : seek? last chunk.tokens text = some rest) :
    ∃ place, chunk.StandsOn place ∧ place.text ++ rest = text ∧ (last = true → rest = []) ∧
      (last = false → chunk.Leftmost place) := by
  induction text <;> rw [seek?] at h
  case nil => exact standsOn_of_stripAs? h
  case cons c text hi =>
    split at h
    case h_1 hm => exact standsOn_of_stripAs? (hm.trans h)
    case h_2 hm =>
      split at h
      case isTrue  => contradiction
      case isFalse hc =>
        have ⟨place, hp, he, hr, hl⟩ := hi h
        have hg : '/' ∉ [c] := by simpa using Ne.symm hc
        refine ⟨_, hp.extend hs hg, by simp [←he, Place.text], hr, ?_⟩
        intro hf
        subst hf he
        exact (hl rfl).skip hm

theorem seek?_of_stripAs? (h : stripAs? last tokens text = some rest) :
    seek? last tokens text = some rest := by
  cases text <;> simp [seek?, h]

theorem exists_seek? (last rest) (hp : chunk.StandsOn place) (hr : last = true → rest = []) :
    ∃ left, seek? last chunk.tokens (place.text ++ rest) = some left := by
  have ⟨skipped, taken⟩ := place
  induction skipped
  case nil =>
    have h := stripAs?_eq_some_iff.mpr ⟨⟨taken, hp.taken, rfl⟩, hr⟩
    exact ⟨rest, seek?_of_stripAs? h⟩
  case cons c skipped hi =>
    have hc : c ≠ '/' := (hp.skipped <| · ▸ List.mem_cons_self)
    cases hm : stripAs? last chunk.tokens (c :: (skipped ++ (taken ++ rest)))
    case some left => exact ⟨left, seek?_of_stripAs? (by simpa [Place.text] using hm)⟩
    case none      => simpa [Place.text, seek?, hm, hc] using hi hp.unskip

theorem standsOn_of_advance? (h : chunk.advance? last text = some rest) :
    ∃ place, chunk.StandsOn place ∧ place.text ++ rest = text ∧ (last = true → rest = []) ∧
      (last = false → chunk.Leftmost place) := by
  cases hs : chunk.star <;> simp only [advance?, hs] at h
  case true  => exact standsOn_of_seek? hs h
  case false => exact standsOn_of_stripAs? h

theorem exists_advance? (last rest) (hp : chunk.StandsOn place) (hr : last = true → rest = []) :
    ∃ left, chunk.advance? last (place.text ++ rest) = some left := by
  cases hs : chunk.star <;> simp only [advance?, hs]
  case true  => exact exists_seek? last rest hp hr
  case false =>
    refine ⟨rest, stripAs?_eq_some_iff.mpr ⟨⟨_, hp.taken, ?_⟩, hr⟩⟩
    simp [Place.text, hp.unstarred hs]

theorem StandsOn.exists_leftmost (hp : chunk.StandsOn place) : ∃ earlier gap,
    chunk.StandsOn earlier ∧ chunk.Leftmost earlier ∧ earlier.text ++ gap = place.text := by
  have ⟨gap, ha⟩ := exists_advance? false [] hp nofun
  have ⟨earlier, he, ht, _, hl⟩ := standsOn_of_advance? ha
  exact ⟨earlier, gap, he, hl rfl, by simpa using ht⟩

theorem Leftmost.unique {x y} (hl : chunk.Leftmost place) (he : chunk.Leftmost earlier)
    (hp : chunk.StandsOn place) (hpe : chunk.StandsOn earlier)
    (h : earlier.text ++ x = place.text ++ y) : x = y := by
  have h₁ : earlier.text <+: place.text ++ y := ⟨x, h⟩
  have h₂ : place.text <+: place.text ++ y := ⟨y, rfl⟩
  have ht : earlier.text = place.text := by
    cases List.prefix_or_prefix_of_prefix h₁ h₂
    case inl h => exact hl _ hpe h
    case inr h => exact (he _ hp h).symm
  exact List.append_cancel_left (ht ▸ h)

theorem advance?_eq_some_iff :
    chunk.advance? false text = some rest ↔
    ∃ place, chunk.StandsOn place ∧ chunk.Leftmost place ∧ place.text ++ rest = text := by
  constructor
  case mp =>
    intro h
    have ⟨place, hp, ht, _, hl⟩ := standsOn_of_advance? h
    exact ⟨place, hp, hl rfl, ht⟩
  case mpr =>
    intro ⟨place, hp, hl, ht⟩
    have ⟨left, ha⟩ := exists_advance? false rest hp nofun
    have ⟨earlier, he, hte, _, hle⟩ := standsOn_of_advance? ha
    rw [←ht, ha, hl.unique (hle rfl) hp he hte]

-- The last chunk does not have to stand on its leftmost place. It has to reach the end.
theorem advance?_eq_some_nil_iff :
    chunk.advance? true text = some [] ↔ ∃ place, chunk.StandsOn place ∧ place.text = text := by
  constructor
  case mp =>
    intro h
    have ⟨place, hp, ht, _⟩ := standsOn_of_advance? h
    exact ⟨place, hp, by simpa using ht⟩
  case mpr =>
    intro ⟨place, hp, ht⟩
    have ⟨rest, ha⟩ := exists_advance? true [] hp (fun _ => rfl)
    have ⟨_, _, _, hr, _⟩ := standsOn_of_advance? ha
    rw [hr rfl, List.append_nil, ht] at ha
    exact ha

theorem standsOn_iff_no_slash (hs : chunk.star = true) (hn : chunk.tokens = []) :
    (∃ place, chunk.StandsOn place ∧ place.text = text) ↔ '/' ∉ text := by
  constructor
  case mp =>
    intro ⟨place, hp, ht⟩
    have h : place.taken = [] := List.eq_nil_of_length_eq_zero (by simp [hp.length_taken, hn])
    simpa [←ht, Place.text, h] using hp.skipped
  case mpr =>
    intro h
    exact ⟨⟨text, []⟩, ⟨h, by simp [hs], by simp [hn]⟩, by simp [Place.text]⟩

end Chunk

section

variable {chunk next : Chunk} {chunks : List Chunk}

theorem matchChunks_singleton :
    matchChunks [chunk] text = true ↔ ∃ place, chunk.StandsOn place ∧ place.text = text := by
  rw [matchChunks]
  split
  case isTrue h =>
    simp only [Bool.and_eq_true, List.isEmpty_iff] at h
    simp [Chunk.standsOn_iff_no_slash h.left h.right]
  case isFalse =>
    rw [←Chunk.advance?_eq_some_nil_iff, List.isEmpty_nil]
    cases chunk.advance? true text <;> simp [matchChunks]

theorem matchChunks_cons (hn : chunk.tokens ≠ []) :
    matchChunks (chunk :: next :: chunks) text = true ↔
    ∃ place rest, chunk.StandsOn place ∧ chunk.Leftmost place ∧ place.text ++ rest = text ∧
      matchChunks (next :: chunks) rest = true := by
  have hm : matchChunks (chunk :: next :: chunks) text = true ↔
      ∃ rest, chunk.advance? false text = some rest ∧ matchChunks (next :: chunks) rest = true := by
    rw [matchChunks, List.isEmpty_cons]
    cases chunk.advance? false text <;> simp [hn]
  simp only [hm, Chunk.advance?_eq_some_iff]
  constructor
  case mp  => intro ⟨rest, ⟨place, hp, hl, ht⟩, h⟩; exact ⟨place, rest, hp, hl, ht, h⟩
  case mpr => intro ⟨place, rest, hp, hl, ht, h⟩; exact ⟨rest, ⟨place, hp, hl, ht⟩, h⟩

-- The matcher puts every chunk but the last on the leftmost place that the chunk can stand on.
theorem matchChunks_iff_leftmost (h : Arranged chunks) :
    matchChunks chunks text = true ↔ Placement Chunk.Leftmost chunks text := by
  induction h generalizing text
  case last chunk =>
    rw [matchChunks_singleton]
    constructor
    case mp  => intro ⟨place, hp, ht⟩; exact ht ▸ .last hp
    case mpr => intro | .last hp => exact ⟨_, hp, rfl⟩
  case more hn _ _ hi =>
    rw [matchChunks_cons hn]
    constructor
    case mp  => intro ⟨place, rest, hp, hl, ht, h⟩; exact ht ▸ .more hp hl (hi.mp h)
    case mpr => intro | .more hp hl h => exact ⟨_, _, hp, hl, rfl, hi.mpr h⟩

end

end JournalSelect.Glob
