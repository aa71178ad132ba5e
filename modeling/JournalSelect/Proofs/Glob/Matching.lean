import JournalSelect.Proofs.Glob.Leftmost

namespace JournalSelect.Glob

-- Behind a star, a slash is taken by a token that is the slash itself, and not by a class.
def Chunk.SparesSlashes (chunk : Chunk) (place : Place) : Prop :=
  chunk.star = true → List.Forall₂ (fun t c => c = '/' → t = .literal '/') chunk.tokens place.taken

section

variable {chunk next : Chunk} {chunks : List Chunk} {text : List Char}

-- On a place that is not the leftmost one, the tokens take no slash. The first slash taken would be
-- written in the chunk, and on the place further to the left the same token would take a character
-- before that slash, where there is none.
theorem Chunk.StandsOn.no_slash_taken {place earlier : Place} (hp : chunk.StandsOn place)
    (he : chunk.StandsOn earlier)
    (hs : List.Forall₂ (fun t c => c = '/' → t = .literal '/') chunk.tokens place.taken)
    (hpre : earlier.text <+: place.text) (hl : earlier.skipped.length < place.skipped.length) :
    '/' ∉ place.taken := by
  intro hm
  have ⟨a, b, hab, ha⟩ := List.eq_append_cons_of_mem hm
  have ⟨t, tokens, ht, _, htd⟩ := List.forall₂_cons_right_iff.mp <|
    List.forall₂_drop_append _ a ('/' :: b) (hab ▸ hs)
  have hd := List.forall₂_drop a.length he.taken
  rw [htd, ht rfl] at hd
  have ⟨c, b', hc, _, he'⟩ := List.forall₂_cons_left_iff.mp hd
  have hc : c = '/' := hc
  have hpre' : earlier.skipped ++ earlier.taken.take a.length ++ ['/'] <+: place.text := by
    refine List.IsPrefix.trans ⟨b', ?_⟩ hpre
    calc
      _ = earlier.skipped ++ (earlier.taken.take a.length ++ earlier.taken.drop a.length) := by
        simp [he', hc]
      _ = earlier.text := by rw [List.take_append_drop, Place.text]
  have hpre'' : place.skipped ++ a <+: place.text := ⟨'/' :: b, by simp [Place.text, hab]⟩
  have hsub := List.prefix_of_prefix_length_le hpre' hpre'' (by simp; omega) |>.subset
  have : '/' ∈ place.skipped ++ a := hsub (by simp)
  exact (List.mem_append.mp this).elim hp.skipped ha

theorem Chunk.StandsOn.no_slash_in_gap {place earlier : Place} {gap : List Char}
    (hp : chunk.StandsOn place) (he : chunk.StandsOn earlier) (hs : chunk.SparesSlashes place)
    (hg : earlier.text ++ gap = place.text) : '/' ∉ gap := by
  have hl : earlier.skipped.length + gap.length = place.skipped.length := by
    have := congrArg List.length hg
    simp [Place.text, hp.length_taken, he.length_taken] at this
    omega
  intro hm
  have hlt : earlier.skipped.length < place.skipped.length := by
    have := List.length_pos_of_mem hm
    omega
  have hstar : chunk.star = true := by
    by_contra hn
    simp [hp.unstarred (by simpa using hn)] at hlt
  have hn := hp.no_slash_taken he (hs hstar) ⟨gap, hg⟩ hlt
  have : '/' ∈ place.text := hg ▸ List.mem_append_right _ hm
  exact (List.mem_append.mp this).elim hp.skipped hn

theorem Placement.extend {gap : List Char} (hs : next.star = true) (hg : '/' ∉ gap) :
    Placement Chunk.SparesSlashes (next :: chunks) text →
    Placement Chunk.SparesSlashes (next :: chunks) (gap ++ text)
  | .last hp      => by simpa [Place.text] using last (hp.extend hs hg)
  | .more hp hq h => by simpa [Place.text] using more (hp.extend hs hg) hq h

theorem matchChunks_of_spared (ha : Arranged chunks)
    (h : Placement Chunk.SparesSlashes chunks text) : matchChunks chunks text = true := by
  induction ha generalizing text
  case last =>
    cases h
    case last hp => exact matchChunks_singleton.mpr ⟨_, hp, rfl⟩
  case more hn hs _ hi =>
    cases h
    case more hp hq h =>
      have ⟨earlier, gap, he, hl, hg⟩ := hp.exists_leftmost
      refine (matchChunks_cons hn).mpr ⟨earlier, gap ++ _, he, hl, ?_, hi (h.extend hs ?_)⟩
      · rw [←List.append_assoc, hg]
      · exact hp.no_slash_in_gap he hq hg

end

namespace Pattern

variable {s : String} {p : Pattern}

def HasSlashClass (p : Pattern) : Prop :=
  ∃ negated ranges, .token (.charClass negated ranges) ∈ p.items ∧
    (Token.charClass negated ranges).Takes '/'

theorem mem_items {chunk : Chunk} {t : Token} (hc : chunk ∈ p.chunks) (ht : t ∈ chunk.tokens) :
    .token t ∈ p.items := by
  refine List.mem_flatMap.mpr ⟨chunk, hc, ?_⟩
  simp [Chunk.items, ht]

theorem sparesSlashes {chunk : Chunk} {place : Place} {text : String} (hc : chunk ∈ p.chunks)
    (hp : chunk.StandsOn place) (hs : place.text ⊆ text.toList)
    (h : '/' ∉ text.toList ∨ ¬p.HasSlashClass) : chunk.SparesSlashes place := by
  intro _
  refine List.forall₂_iff_zip.mpr ⟨hp.taken.length_eq, ?_⟩
  intro t c hm hslash
  subst hslash
  have ⟨ht, hm'⟩ := List.of_mem_zip hm
  have htakes := List.forall₂_zip hp.taken hm
  cases h
  case inl h => exact absurd (hs <| List.mem_append_right _ hm') h
  case inr h =>
    cases t
    case literal                  => exact congrArg _ htakes.symm
    case anyChar                  => exact absurd rfl htakes
    case charClass negated ranges => exact absurd ⟨_, _, mem_items hc ht, htakes⟩ h

-- Which texts are described, which of them are accepted, and which of them cannot be missed.
theorem accepts_iff_leftmost_placement (h : parse s = .ok p) (text : String) :
    (p.Describes text ↔ Placement (fun _ _ => True) p.chunks text.toList) ∧
    (p.accepts text = true ↔ Placement Chunk.Leftmost p.chunks text.toList) ∧
    (Placement Chunk.SparesSlashes p.chunks text.toList → p.accepts text = true) := by
  have ha := arranged_of_parse h
  refine ⟨⟨?_, Placement.cut⟩, matchChunks_iff_leftmost ha, matchChunks_of_spared ha⟩
  exact fun hd => .of_cut ha.ne_nil hd (fun _ _ _ _ _ => trivial)

-- The class of the last chunk may take a slash.
theorem accepts_iff_leftmost_placement_slash :
    ∃ p, parse "*b*[^x]" = .ok p ∧
      p.Describes "abc/" ∧ Placement (fun _ _ => True) p.chunks "abc/".toList ∧
      Placement Chunk.SparesSlashes p.chunks "abc/".toList ∧ p.accepts "abc/" = true ∧
      Placement Chunk.Leftmost p.chunks "abc/".toList := by
  have h : parse "*b*[^x]" =
      .ok ⟨[⟨true, [.literal 'b']⟩, ⟨true, [.charClass true [('x', 'x')]]⟩]⟩ := by
    decide +kernel
  obtain ⟨hd, hl, hs⟩ := accepts_iff_leftmost_placement h "abc/"
  have hb : Chunk.StandsOn ⟨true, [.literal 'b']⟩ ⟨['a'], ['b']⟩ :=
    ⟨by decide, by simp, .cons rfl .nil⟩
  have hc : Chunk.StandsOn ⟨true, [.charClass true [('x', 'x')]]⟩ ⟨['c'], ['/']⟩ :=
    ⟨by decide, by simp, .cons (by simp [Token.Takes]) .nil⟩
  have hp : Placement Chunk.SparesSlashes _ "abc/".toList :=
    .more hb (fun _ => .cons (by simp) .nil) (.last hc)
  have ha := hs hp
  exact ⟨_, h, hp.cut, hd.mp hp.cut, hp, ha, hl.mp ha⟩

theorem misses_slash_taken_by_class :
    ∃ p, parse "*[^x]*" = .ok p ∧ p.Describes "a/" ∧ p.accepts "a/" = false := by
  refine ⟨⟨[⟨true, [.charClass true [('x', 'x')]]⟩, ⟨true, []⟩]⟩, by decide +kernel, ?_, by decide⟩
  have hs : Item.star.Takes ['a'] := by simp [Item.Takes]
  have hc : (Item.token (.charClass true [('x', 'x')])).Takes ['/'] :=
    ⟨_, rfl, by simp [Token.Takes]⟩
  exact ⟨[['a'], ['/'], []], .cons hs (.cons hc (.cons List.not_mem_nil .nil)), rfl⟩

theorem describes_of_accepts {text : String} (h : parse s = .ok p) (ht : p.accepts text = true) :
    p.Describes text :=
  (matchChunks_iff_leftmost (arranged_of_parse h) |>.mp ht).cut

theorem accepts_iff_describes {text : String} (h : parse s = .ok p)
    (hs : '/' ∉ text.toList ∨ ¬p.HasSlashClass) : p.accepts text = true ↔ p.Describes text := by
  refine ⟨describes_of_accepts h, fun hd => ?_⟩
  have ha := arranged_of_parse h
  apply matchChunks_of_spared ha
  exact .of_cut ha.ne_nil hd (fun _ hc _ hp hsub => sparesSlashes hc hp hsub hs)

-- Every accepted text is described. A described text can be missed only if a class takes a slash in it.
theorem accepts_sound_and_exact (h : parse s = .ok p) (text : String) :
    (p.accepts text = true → p.Describes text) ∧
    ('/' ∉ text.toList ∨ ¬p.HasSlashClass → (p.accepts text = true ↔ p.Describes text)) := by
  refine ⟨describes_of_accepts h, ?_⟩
  intro hs
  exact accepts_iff_describes h hs

theorem accepts_sound_and_exact_several_stars :
    ∃ p, parse "a*b*c" = .ok p ∧ '/' ∉ "abcbc".toList ∧
      p.accepts "abcbc" = true ∧ p.Describes "abcbc" := by
  have h : parse "a*b*c" = .ok
      ⟨[⟨false, [.literal 'a']⟩, ⟨true, [.literal 'b']⟩, ⟨true, [.literal 'c']⟩]⟩ := by
    decide +kernel
  have hs : '/' ∉ "abcbc".toList := by decide
  have ha := accepts_sound_and_exact h "abcbc" |>.right (.inl hs)
  exact ⟨_, h, hs, by decide, ha.mp (by decide)⟩

end Pattern

end JournalSelect.Glob
