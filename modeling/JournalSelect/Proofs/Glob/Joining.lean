import JournalSelect.Proofs.Glob.Reading

namespace JournalSelect.Glob

-- Where two patterns meet. A chunk without a star continues the one before it, and a star behind a chunk
-- without tokens takes over its place.
def Chunk.meet (last first : Chunk) : List Chunk :=
  if first.star then if last.tokens.isEmpty then [first] else [last, first]
  else [⟨last.star, last.tokens ++ first.tokens⟩]

theorem Chunk.meet_ne_nil {last first : Chunk} : last.meet first ≠ [] := by
  unfold meet
  split <;> try split
  all_goals simp

def joinChunks : List Chunk → List Chunk → List Chunk
  | [], others => others
  | [last], first :: others => last.meet first ++ others
  | chunk :: chunks, others => chunk :: joinChunks chunks others

theorem joinChunks_cons {chunk next : Chunk} {chunks others : List Chunk} :
    joinChunks (chunk :: next :: chunks) others = chunk :: joinChunks (next :: chunks) others := by
  simp [joinChunks]

-- What stands before the last chunk, and behind the first of the others, is kept.
theorem joinChunks_concat {before after : List Chunk} {last first : Chunk} :
    joinChunks (before ++ [last]) (first :: after) = before ++ last.meet first ++ after := by
  induction before
  case nil => rfl
  case cons chunk before hi =>
    cases before
    case nil  => rfl
    case cons => simpa [joinChunks_cons] using hi

theorem joinChunks_ne_nil {chunk : Chunk} {chunks others : List Chunk} :
    joinChunks (chunk :: chunks) others ≠ [] := by
  cases chunks <;> cases others <;> simp [joinChunks, Chunk.meet_ne_nil]

variable {xs ys : List Item}

theorem items?_append {cs ds : List Char} (h : items? cs = .ok xs) :
    items? (cs ++ ds) = (items? ds).map (xs ++ ·) := by
  have ⟨w, hw, ht⟩ := exists_items h
  subst hw ht
  clear h
  induction w
  case nil =>
    rw [Written.Pattern.text, List.flatMap_nil, List.nil_append]
    exact congrFun Except.map_id.symm _
  case cons i w hi =>
    rw [Written.Pattern.text, List.flatMap_cons, List.append_assoc, items?_item]
    rw [←Written.Pattern.text, hi, map_map]
    rfl

-- The seam is far from the front, unless a single chunk stands before it.
theorem Item.prepend_joinChunks (item : Item) {chunk first : Chunk} {chunks others : List Chunk} :
    item.prepend (joinChunks (chunk :: chunks) (first :: others)) =
    joinChunks (item.prepend (chunk :: chunks)) (first :: others) := by
  have ⟨b, tokens⟩ := chunk
  have ⟨c, _⟩ := first
  cases chunks
  case cons => cases item <;> cases b <;> simp [prepend, joinChunks_cons]
  case nil  =>
    cases item <;> cases b <;> cases c <;> cases tokens <;> simp [prepend, joinChunks, Chunk.meet]

theorem chunksOf_append : chunksOf (xs ++ ys) = joinChunks (chunksOf xs) (chunksOf ys) := by
  have ⟨first, others, hy, _⟩ := exists_head_chunksOf ys
  induction xs
  case nil =>
    have ⟨b, _⟩ := first
    have hn : chunksOf [] = [⟨false, []⟩] := rfl
    rw [List.nil_append, hy, hn]
    cases b <;> simp [joinChunks, Chunk.meet]
  case cons item xs hi =>
    have ⟨_, _, hx, _⟩ := exists_head_chunksOf xs
    rw [List.cons_append, chunksOf_cons, chunksOf_cons, hi, hx, hy]
    exact item.prepend_joinChunks

theorem Item.prepend_star_star {chunks : List Chunk} :
    prepend .star (prepend .star chunks) = prepend .star chunks := by
  cases chunks <;> rfl

def stars (n : Nat) : String :=
  String.ofList (List.replicate n '*')

theorem items?_stars {n : Nat} : items? (stars n).toList = .ok (List.replicate n .star) := by
  rw [stars, String.toList_ofList]
  induction n
  case zero      => simp [items?]
  case succ n hi => simp [List.replicate_succ, items?, hi, Except.map]

theorem chunksOf_stars_append {n : Nat} (h : 0 < n) :
    chunksOf (List.replicate n .star ++ ys) = chunksOf (.star :: ys) := by
  induction n
  case zero => contradiction
  case succ n hi =>
    cases n
    case zero => rfl
    case succ =>
      rw [List.replicate_succ, List.cons_append, chunksOf_cons, hi (by omega), chunksOf_cons]
      exact Item.prepend_star_star

namespace Pattern

variable {s t : String} {p q : Pattern} {n : Nat}

theorem parse_append (h : parse s = .ok p) :
    parse (s ++ t) = (parse t).map fun q => ⟨joinChunks p.chunks q.chunks⟩ := by
  have ⟨xs, hx, hp⟩ := parse_eq_ok_iff.mp h
  simp [parse, String.toList_append, items?_append hx, hp, map_map, Function.comp_def, chunksOf_append]

theorem parse_stars_append (h : 0 < n) : parse (stars n ++ t) = parse ("*" ++ t) := by
  have hs : items? "*".toList = .ok [.star] := items?_stars (n := 1)
  rw [parse, parse, String.toList_append, String.toList_append]
  rw [items?_append items?_stars, items?_append hs, map_map, map_map]
  simp [Function.comp_def, chunksOf_stars_append h]

-- What is read from a pattern and any text behind it, and that one star there is as good as many.
theorem parse_append_joins_at_seam (h : parse s = .ok p) :
    (∀ t e, parse (s ++ t) = .error e ↔ parse t = .error e) ∧
    (∀ t q, parse t = .ok q → ∃ before last first after,
      p.chunks = before ++ [last] ∧ q.chunks = first :: after ∧
      parse (s ++ t) = .ok ⟨before ++ last.meet first ++ after⟩) ∧
    (∀ n t, 0 < n → parse (s ++ stars n ++ t) = parse (s ++ "*" ++ t)) := by
  refine ⟨?_, ?_, ?_⟩
  · intro t e
    rw [parse_append h, map_eq_error_iff]
  · intro t q hq
    have hp := List.dropLast_concat_getLast (arranged_of_parse h).ne_nil
    have ⟨first, after, hf⟩ := List.exists_cons_of_ne_nil (arranged_of_parse hq).ne_nil
    refine ⟨_, _, first, after, hp.symm, hf, ?_⟩
    rw [parse_append h, hq, ←joinChunks_concat, hp, ←hf]
    rfl
  · intro n t hn
    rw [String.append_assoc, String.append_assoc, parse_append h, parse_append h]
    rw [parse_stars_append hn]

theorem parse_append_joins_at_seam_star_behind_star :
    let a : Chunk := ⟨false, [.literal 'a']⟩
    let b : Chunk := ⟨true, [.literal 'b']⟩
    parse "a*" = .ok ⟨[a, ⟨true, []⟩]⟩ ∧ parse "*b" = .ok ⟨[b]⟩ ∧
    parse ("a*" ++ "*b") = .ok ⟨[a, b]⟩ ∧ parse ("a*" ++ "[]") = .error .emptyClass ∧
    parse ("a*" ++ stars 3 ++ "[") = parse ("a*" ++ "*" ++ "[") := by
  intro a b
  have hp : parse "a*" = .ok ⟨[a, ⟨true, []⟩]⟩ := by decide +kernel
  have hq : parse "*b" = .ok ⟨[b]⟩ := by decide +kernel
  have ⟨he, hj, hs⟩ := parse_append_joins_at_seam hp
  have ⟨before, last, first, after, hl, hf, hr⟩ := hj _ _ hq
  have hl : [a] ++ [⟨true, []⟩] = before ++ [last] := hl
  have ⟨hb, hl⟩ := List.append_inj' hl rfl
  cases hb
  cases hl
  cases hf
  exact ⟨hp, hq, hr, he _ _ |>.mpr (by decide +kernel), hs 3 _ (by decide)⟩

end Pattern

end JournalSelect.Glob
