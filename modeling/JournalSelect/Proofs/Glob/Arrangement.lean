import JournalSelect.Glob.Parser

namespace JournalSelect.Glob

-- A star opens every chunk but the first, and every chunk but the last has tokens.
inductive Arranged : List Chunk → Prop
  | last (chunk) : Arranged [chunk]
  | more {chunk next chunks} :
    chunk.tokens ≠ [] → next.star = true → Arranged (next :: chunks) →
    Arranged (chunk :: next :: chunks)

namespace Arranged

variable {chunk : Chunk} {chunks : List Chunk}

theorem ne_nil : Arranged chunks → chunks ≠ []
  | .last _ | .more .. => by simp

-- Only the tokens of the first chunk matter to what comes behind it.
theorem head {star tokens} (ht : chunk.tokens ≠ [] → tokens ≠ []) :
    Arranged (chunk :: chunks) → Arranged (⟨star, tokens⟩ :: chunks)
  | .last _        => .last _
  | .more hn hs ha => .more (ht hn) hs ha

theorem prepend (item : Item) (h : Arranged chunks) : Arranged (item.prepend chunks) := by
  cases item <;> cases chunks
  case star.nil     => exact last _
  case token.nil    => exact last _
  case star.cons    => exact head id h
  case token.cons t chunk chunks =>
    cases hs : chunk.star <;> simp only [Item.prepend, hs]
    case false => exact head (by simp) h
    case true  => exact more (by simp) hs h

end Arranged

variable {chunks : List Chunk}

theorem arranged_iff : Arranged chunks ↔ chunks ≠ [] ∧
    (∀ chunk ∈ chunks.tail, chunk.star = true) ∧ ∀ chunk ∈ chunks.dropLast, chunk.tokens ≠ [] := by
  constructor
  case mp =>
    intro h
    induction h
    case last            => simp
    case more hn hs _ hi => simp_all
  case mpr =>
    intro ⟨hn, hs, ht⟩
    induction chunks
    case nil                  => contradiction
    case cons chunk chunks hi =>
      cases chunks
      case nil       => exact .last _
      case cons next =>
        have ⟨hc, ht⟩ := List.forall_mem_cons.mp ht
        have ha := hi (by simp) (fun c hm => hs c (List.mem_cons_of_mem _ hm)) ht
        exact .more hc (hs _ List.mem_cons_self) ha

theorem arranged_chunksOf (items : List Item) : Arranged (chunksOf items) := by
  induction items
  case nil            => exact .last _
  case cons item _ hi => exact hi.prepend item

namespace Pattern

theorem parse_eq_ok_iff {s : String} {p : Pattern} :
    parse s = .ok p ↔ ∃ items, items? s.toList = .ok items ∧ p = ⟨chunksOf items⟩ := by
  cases h : items? s.toList <;> simp [parse, h, Except.map, eq_comm]

theorem arranged_of_parse {s : String} {p : Pattern} (h : parse s = .ok p) : Arranged p.chunks := by
  have ⟨items, _, hp⟩ := parse_eq_ok_iff.mp h
  exact hp ▸ arranged_chunksOf items

end Pattern

end JournalSelect.Glob
