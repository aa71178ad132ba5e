import JournalSelect.Proofs.Glob.Joining

namespace JournalSelect.Glob

open Written (Member Range)

-- The pattern ends in a class or behind a backslash.
def PatternError.Incomplete : PatternError → Prop
  | unterminatedClass | trailingEscape => True
  | emptyClass | badClassChar _ => False

-- A text at whose front there is no item to read.
inductive Stuck : PatternError → List Char → Prop
  | escape : Stuck .trailingEscape ['\\']
  | charClass {e : PatternError} {cs : List Char} : class? cs = .error e → Stuck e ('[' :: cs)

variable {cs ds rest : List Char} {before : List (Char × Char)} {e : PatternError}

theorem exists_member_of_incomplete (h : member? cs = .error e) (he : e.Incomplete) :
    ∃ m : Member, cs <+: m.text := by
  rcases cs with _ | ⟨c, cs⟩
  case nil => exact ⟨.escaped 'a', List.nil_prefix⟩
  case cons =>
    simp only [member?] at h
    split at h
    case isTrue =>
      cases h
      contradiction
    case isFalse hb =>
      split at h
      case isTrue hc =>
        rcases cs with _ | ⟨d, _ | _⟩
        case nil       => exact ⟨.escaped 'a', by simp [Member.text, hc]⟩
        case cons.nil  => exact ⟨.escaped d, by simp [Member.text, hc]⟩
        case cons.cons => contradiction
      case isFalse hc =>
        cases cs
        case nil  => exact ⟨.bare c (by grind), by simp [Member.text]⟩
        case cons => contradiction

theorem member?_append_of_final (h : member? cs = .error e) (he : ¬e.Incomplete) :
    member? (cs ++ ds) = .error e := by
  rcases cs with _ | ⟨c, cs⟩
  case nil =>
    cases h
    exact absurd trivial he
  case cons =>
    simp only [member?] at h
    split at h
    case isTrue hc => simpa [member?, hc] using h
    case isFalse hb =>
      split at h <;> split at h <;> cases h <;> exact absurd trivial he

theorem exists_ranges_of_incomplete (h : ranges? before cs = .error e) (he : e.Incomplete) :
    ∃ rs : List Range, rs ≠ [] ∧ cs <+: rs.flatMap Range.text := by
  fun_induction ranges? before cs
  case case1 => exact ⟨[.single (.escaped 'a')], by simp, List.nil_prefix⟩
  case case2 =>
    cases h
    contradiction
  case case3 => contradiction
  case case4 hm =>
    cases h
    obtain ⟨m, hp⟩ := exists_member_of_incomplete hm he
    exact ⟨[.single m], by simp, by simpa [Range.text] using hp⟩
  case case5 hl _ hh =>
    cases h
    obtain ⟨low, _, ht, _⟩ := exists_member hl
    obtain ⟨high, hp⟩ := exists_member_of_incomplete hh he
    exact ⟨[.between low high], by simp, by simpa [Range.text, ←ht] using hp⟩
  case case6 hl _ _ hh _ _ hi =>
    obtain ⟨low, _, hlt, _⟩ := exists_member hl
    obtain ⟨high, _, hht, _⟩ := exists_member hh
    obtain ⟨rs, _, hp⟩ := hi h
    exact ⟨.between low high :: rs, by simp, by simpa [Range.text, ←hlt, ←hht] using hp⟩
  case case7 hm _ hi =>
    obtain ⟨m, _, ht, _⟩ := exists_member hm
    obtain ⟨rs, _, hp⟩ := hi h
    exact ⟨.single m :: rs, by simp, by simpa [Range.text, ←ht] using hp⟩

theorem ranges?_of_member? (hm : member? cs = .error e) (hn : cs ≠ []) (hb : cs.head? ≠ some ']') :
    ranges? before cs = .error e := by
  rw [ranges?.eq_def]
  split
  case h_1 => contradiction
  case h_2 => exact absurd rfl hb
  case h_3 => split <;> simp_all

theorem head?_append_ne {c : Char} (hn : cs ≠ []) (h : ∀ rest, cs ≠ c :: rest) :
    (cs ++ ds).head? ≠ some c := by
  rw [List.head?_append_of_ne_nil _ hn, ne_eq, List.head?_eq_some_iff]
  exact fun ⟨rest, hc⟩ => h rest hc

theorem ranges?_append_of_final (h : ranges? before cs = .error e) (he : ¬e.Incomplete) :
    ranges? before (cs ++ ds) = .error e := by
  fun_induction ranges? before cs
  case case1 =>
    cases h
    exact absurd trivial he
  case case2 hb => simpa [ranges?, hb] using h
  case case3    => contradiction
  case case4 hn hb _ hm =>
    cases h
    exact ranges?_of_member? (member?_append_of_final hm he)
      (List.append_ne_nil_of_left_ne_nil hn ds) (head?_append_ne hn hb)
  case case5 hl _ hh =>
    cases h
    obtain ⟨low, rfl, rfl, _⟩ := exists_member hl
    rw [List.append_assoc, List.cons_append, ranges?_hyphen, member?_append_of_final hh he]
    rfl
  case case6 hl _ _ hh _ _ hi =>
    obtain ⟨low, rfl, rfl, _⟩ := exists_member hl
    obtain ⟨high, rfl, rfl, hn⟩ := exists_member hh
    simpa [ranges?_between low high (List.append_ne_nil_of_left_ne_nil hn ds)] using hi h
  case case7 hb hm _ hi =>
    obtain ⟨m, rfl, rfl, hn⟩ := exists_member hm
    rw [List.append_assoc, ranges?_single m (by simp [hn]) (head?_append_ne hn hb)]
    exact hi h

theorem class?_cons {c : Char} (hc : c ≠ '^') : class? (c :: cs) = classFrom? false (c :: cs) := by
  rw [class?.eq_def]
  split <;> simp_all

theorem classFrom?_eq_error_iff {negated : Bool} :
    classFrom? negated cs = .error e ↔ ranges? [] cs = .error e := by
  cases h : ranges? [] cs <;> simp [classFrom?, h]

theorem exists_class_of_incomplete (h : class? cs = .error e) (he : e.Incomplete) :
    ∃ c : Written.Class, cs <+: c.text := by
  rcases cs with _ | ⟨c, cs⟩
  case nil =>
    exact ⟨⟨true, [.single (.escaped 'a')], by simp, nofun⟩, List.nil_prefix⟩
  case cons =>
    by_cases hc : c = '^'
    case pos =>
      subst hc
      obtain ⟨rs, hn, hp⟩ := exists_ranges_of_incomplete (classFrom?_eq_error_iff.mp h) he
      exact ⟨⟨true, rs, hn, nofun⟩, by simpa [Written.Class.text, Written.Class.mark] using hp⟩
    case neg =>
      rw [class?_cons hc, classFrom?_eq_error_iff] at h
      obtain ⟨rs, hn, ⟨ds, hp⟩⟩ := exists_ranges_of_incomplete h he
      have hu : (rs.flatMap Range.text).head? ≠ some '^' := by simpa [←hp] using hc
      refine ⟨⟨false, rs, hn, fun _ => hu⟩, ds, ?_⟩
      simpa [Written.Class.text, Written.Class.mark] using hp

theorem class?_append_of_final (h : class? cs = .error e) (he : ¬e.Incomplete) :
    class? (cs ++ ds) = .error e := by
  rcases cs with _ | ⟨c, cs⟩
  case nil =>
    have hn : class? [] = .error .unterminatedClass := by simp [class?, classFrom?, ranges?]
    cases hn.symm.trans h
    exact absurd trivial he
  case cons =>
    by_cases hc : c = '^'
    case pos =>
      subst hc
      exact classFrom?_eq_error_iff.mpr <| ranges?_append_of_final (classFrom?_eq_error_iff.mp h) he
    case neg =>
      rw [class?_cons hc, classFrom?_eq_error_iff] at h
      rw [List.cons_append, class?_cons hc, classFrom?_eq_error_iff]
      exact ranges?_append_of_final h he

namespace Stuck

theorem items? (h : Stuck e rest) : Glob.items? rest = .error e := by
  cases h
  case escape       => simp [Glob.items?]
  case charClass hc =>
    rw [Glob.items?]
    split <;> simp_all

theorem exists_item (h : Stuck e rest) (he : e.Incomplete) :
    ∃ (i : Written.Item), rest <+: i.text := by
  cases h
  case escape       => exact ⟨.escaped 'a', by simp [Written.Item.text]⟩
  case charClass hc =>
    obtain ⟨c, hp⟩ := exists_class_of_incomplete hc he
    refine ⟨.charClass c, ?_⟩
    rw [Written.Item.text, List.cons_append, List.cons_prefix_cons]
    exact ⟨rfl, hp.trans (List.prefix_append ..)⟩

theorem append (h : Stuck e rest) (he : ¬e.Incomplete) : Stuck e (rest ++ ds) := by
  cases h
  case escape       => exact absurd trivial he
  case charClass hc => exact .charClass (class?_append_of_final hc he)

end Stuck

theorem exists_stuck_cons (i : Written.Item)
    (hr : items? rest = .error e →
      ∃ (w : Written.Pattern) (cs : List Char), w.text ++ cs = rest ∧ Stuck e cs)
    (h : (items? rest).map (i.item :: ·) = .error e) :
    ∃ (w : Written.Pattern) (cs : List Char), w.text ++ cs = i.text ++ rest ∧ Stuck e cs := by
  have ⟨w, cs, ht, hs⟩ := hr (map_eq_error_iff.mp h)
  exact ⟨i :: w, cs, by simp [Written.Pattern.text, ←ht], hs⟩

-- Reading gets as far as the items are well written.
theorem exists_stuck (h : items? cs = .error e) :
    ∃ (w : Written.Pattern) (rest : List Char), w.text ++ rest = cs ∧ Stuck e rest := by
  fun_induction items? cs
  case case1          => contradiction
  case case2 hi       => exact exists_stuck_cons .star hi h
  case case3 hi       => exact exists_stuck_cons .anyChar hi h
  case case4          => cases h; exact ⟨[], _, rfl, .escape⟩
  case case5 c _ hi   => exact exists_stuck_cons (.escaped c) hi h
  case case6 hc       => cases h; exact ⟨[], _, rfl, .charClass hc⟩
  case case7 hc _ hi  =>
    obtain ⟨c, rfl, rfl⟩ := exists_class hc
    simpa [Written.Item.text] using exists_stuck_cons (.charClass c) hi h
  case case8 c rest h₁ h₂ h₃ h₄ h₅ hi =>
    have hb : c ≠ '\\' := by cases rest <;> simp_all
    exact exists_stuck_cons (.bare c ⟨h₁, h₂, hb, h₅⟩) hi h

namespace Pattern

variable {s : String}

theorem parse_eq_error_iff : parse s = .error e ↔ items? s.toList = .error e :=
  map_eq_error_iff

-- A pattern that is incomplete is the beginning of one that can be read. Any other error is reported for
-- every longer pattern too.
theorem parse_error_mended_or_kept (h : parse s = .error e) :
    (e.Incomplete → ∃ t p, parse (s ++ t) = .ok p) ∧
    (¬e.Incomplete → ∀ t, parse (s ++ t) = .error e) := by
  have ⟨w, rest, hs, hr⟩ := exists_stuck (parse_eq_error_iff.mp h)
  constructor
  case left =>
    intro he
    have ⟨i, t, ht⟩ := hr.exists_item he
    refine ⟨String.ofList t, _, parse_written (w := w ++ [i]) ?_⟩
    simp [Written.Pattern.text, ←ht, ←hs]
  case right =>
    intro he t
    rw [parse_eq_error_iff, String.toList_append, ←hs, List.append_assoc, items?_append (items?_text w)]
    rw [(hr.append he).items?]
    rfl

theorem parse_error_mended_or_kept_half_range :
    parse "x[a-" = .error .unterminatedClass ∧ (∃ t p, parse ("x[a-" ++ t) = .ok p) ∧
    parse "x[a-]" = .error (.badClassChar ']') ∧
    ∀ t, parse ("x[a-]" ++ t) = .error (.badClassChar ']') := by
  have hi : parse "x[a-" = .error .unterminatedClass := by decide +kernel
  have hf : parse "x[a-]" = .error (.badClassChar ']') := by decide +kernel
  have ⟨mended, _⟩ := parse_error_mended_or_kept hi
  have ⟨_, kept⟩ := parse_error_mended_or_kept hf
  exact ⟨hi, mended trivial, hf, kept id⟩

end Pattern

end JournalSelect.Glob
