import Formula.Proofs.Rows
import Formula.Proofs.Unlimited
import Mathlib.Data.List.TakeWhile
set_option autoImplicit false

/-!
# Climbing along a row

The tokens of a row are binary operators with the tokens of a factor behind each of them.  A climb
takes exactly them, if what follows goes on neither behind the last factor nor behind the row, and
the tree that it returns is the one of the row: `climb_links`.

The operands are opaque on both sides.  All that a climb needs to know of a factor is that it is
read in front of what follows it (`ReadsOperands`), and so the induction is one on rows.
-/

namespace Formula

open Grammar

namespace Reader

/-- An operator, and the tokens behind it that are its right operand. -/
structure Link where
  op : Token
  run : List Token
  operand : Expr

namespace Link

/-- The link is an operator that a climb from `least` joins, and the tokens of a factor. -/
structure IsJoined (least : Nat) (link : Link) : Prop where
  joins : joins least link.op = true
  factor : Phrase .factor link.run link.operand

/-- The tokens of links one after the other. -/
def tokens (links : List Link) : List Token := links.flatMap fun link => link.op :: link.run

/-- The row of operands that links make behind a first one. -/
def rowBehind (first : Expr) (links : List Link) : Row :=
  ⟨first, links.map fun link => (link.op, link.operand)⟩

@[simp] theorem tokens_nil : tokens [] = [] := rfl

@[simp] theorem tokens_cons (link : Link) (links : List Link) :
    tokens (link :: links) = link.op :: (link.run ++ tokens links) := rfl

theorem tokens_append (links others : List Link) :
    tokens (links ++ others) = tokens links ++ tokens others := List.flatMap_append

end Link

open Link

/-! ## Along links that are read -/

/-- Each operand is read in front of the links behind it and the rest. -/
def ReadsOperands (operand : Nat → Reader Expr) (rest : List Token) : List Link → Prop
  | [] => True
  | link :: links =>
      (∀ around, operand around (link.run ++ (tokens links ++ rest)) =
        .ok link.operand (tokens links ++ rest)) ∧ ReadsOperands operand rest links

section Links

variable {operand : Nat → Reader Expr} {rest : List Token}

theorem readsOperands_append {inner outer : List Link} :
    ReadsOperands operand rest (inner ++ outer) ↔
      ReadsOperands operand (tokens outer ++ rest) inner ∧ ReadsOperands operand rest outer := by
  induction inner with
  | nil => exact ⟨fun reads => ⟨trivial, reads⟩, And.right⟩
  | cons link inner ih =>
      rw [List.cons_append, ReadsOperands, ReadsOperands, ih, tokens_append, List.append_assoc,
        and_assoc]

/-- The links from the first one on that a climb from `least` does not join are set apart. -/
theorem exists_claims (least : Nat) (links : List Link) :
    ∃ inner outer, links = inner ++ outer ∧ (∀ link ∈ inner, joins least link.op = true) ∧
      ∀ link ∈ outer.head?, joins least link.op = false := by
  let claims (link : Link) : Bool := joins least link.op
  refine ⟨links.takeWhile claims, links.dropWhile claims,
    List.takeWhile_append_dropWhile.symm,
    fun link h => (List.mem_takeWhile_imp h : claims link = true), fun link h => ?_⟩
  have hnot := List.head?_dropWhile_not claims links
  rw [h] at hnot
  exact hnot

/-- What does not go on behind a row does not go on behind a part of it. -/
theorem not_joins_of_le {least greater : Nat} (le : least ≤ greater) {next : Token}
    (h : joins least next = false) : joins greater next = false := by
  rw [← Bool.not_eq_true, joins_iff] at h ⊢
  exact fun hgreater => h ⟨hgreater.1, Nat.le_trans le hgreater.2⟩

/-- A climb along links that are read returns the tree of their row. -/
theorem climbAll_links (advances : ∀ around, Advances (operand around)) {links : List Link}
    (reads : ReadsOperands operand rest links) {least : Nat}
    (hjoins : ∀ link ∈ links, joins least link.op = true)
    (stops : ∀ next ∈ rest.head?, joins least next = false) (around : Nat) (left : Expr) :
    climbAll operand around left least (tokens links ++ rest) =
      .ok (rowBehind left links).tree rest := by
  -- on the number of links: those with a claim to the first operand are joined to it, then the others
  induction hn : links.length using Nat.strongRecOn generalizing links rest least around left with
  | ind n ih =>
      cases links with
      | nil => exact climbAll_stops_of_head stops around left
      | cons link links =>
          obtain ⟨hread, hreads⟩ := reads
          have hlink := hjoins link List.mem_cons_self
          obtain ⟨hbinary, hleast⟩ := joins_iff.1 hlink
          obtain ⟨inner, outer, rfl, hinner, houter⟩ :=
            exists_claims link.op.kind.rightThreshold links
          obtain ⟨readsInner, readsOuter⟩ := readsOperands_append.1 hreads
          rw [List.length_cons, List.length_append] at hn
          have joinsOuter (other : Link) (h : other ∈ outer) : joins least other.op = true :=
            hjoins other (List.mem_cons_of_mem link (List.mem_append_right inner h))
          have stopsInner (next : Token) (h : next ∈ (tokens outer ++ rest).head?) :
              joins link.op.kind.rightThreshold next = false := by
            cases outer with
            | nil =>
                refine not_joins_of_le (Nat.le_trans hleast ?_) (stops next h)
                exact Kind.precedence_le_rightThreshold link.op.kind
            | cons other outer =>
                cases h
                exact houter other rfl
          have claimed := ih inner.length (by omega) readsInner hinner stopsInner
            (around + 1) link.operand rfl
          have others := ih outer.length (by omega) readsOuter joinsOuter stops around
            (.binary left (rowBehind link.operand inner).tree link.op) rfl
          rw [tokens_cons, List.cons_append, List.append_assoc, climbAll_joins advances hlink, chain,
            hread, Reply.andThen_ok, tokens_append, List.append_assoc, claimed, Reply.andThen_ok,
            others, rowBehind, rowBehind, rowBehind, List.map_cons, List.map_append,
            Row.tree_span hbinary]
          · intro x hx
            obtain ⟨other, hother, rfl⟩ := List.mem_map.1 hx
            exact hinner other hother
          · intro x hx
            rw [List.head?_map] at hx
            obtain ⟨other, hother, rfl⟩ := Option.map_eq_some_iff.1 hx
            exact precedence_lt_of_not_joins (houter other hother)
              (joins_iff.1 (joinsOuter other (List.mem_of_mem_head? hother))).1

end Links

/-! ## Along factors -/

/-- The tokens do not go on behind the factor `run`.  A prefix sign does not go on anywhere, but it
is refused behind every factor without a postfix operator. -/
def Apart (run rest : List Token) : Prop :=
  ∀ next ∈ rest.head?, next.kind ≠ .negate ∧ ¬ Viable (Phrase .factor) (run ++ [next])

/-- A token that may follow a factor does not go on behind it. -/
theorem not_viable_of_ends {run : List Token} {operand : Expr} {next : Token}
    (h : Phrase .factor run operand) (ends : Ends .factor [next]) :
    ¬ Viable (Phrase .factor) (run ++ [next]) := by
  rintro ⟨more, e, hphrase⟩
  rw [List.append_assoc, List.singleton_append] at hphrase
  have room := not_tooDeep_factor (run ++ next :: more) (Nat.lt_succ_self _)
  have hwhole := (factor_complete hphrase _).resolve_right room
  have hends : Ends .factor (next :: more) := fun t ht => ends t ht
  have hfront := (factor_reads h hends _).resolve_right room
  rw [hwhole] at hfront
  cases hfront

/-- The next link does not go on behind a factor. -/
theorem apart_binary {run : List Token} {operand : Expr} {op : Token} (h : Phrase .factor run operand)
    (hop : op.kind.isBinary = true) (rest : List Token) : Apart run (op :: rest) := by
  rintro next ⟨rfl⟩
  refine ⟨?_, not_viable_of_ends h ?_⟩
  · intro hnegate
    rw [hnegate] at hop
    cases hop
  · exact (ends_leftOf rfl hop []).tighten (rank_leftOf_le op.kind)

/-- A factor is read without a limit, in front of tokens that do not go on behind it. -/
theorem factorWith_unlimited {run rest : List Token} {operand : Expr}
    (h : Phrase .factor run operand) (apart : Apart run rest) :
    factorWith unlimited (run ++ rest) = .ok operand rest := by
  have room := not_tooDeep_factor (run ++ rest) (Nat.lt_succ_self _)
  have hread := ((readsForm_factor _).reads_apart h apart).resolve_right room
  rw [← hread]
  exact ((factorWith_agree (primary_agrees_unlimited _) (run ++ rest)).eq room).symm

theorem advances_factorWith_unlimited : Advances (factorWith unlimited) :=
  advances_factorWith advances_unlimited

theorem readsOperands_factors {least : Nat} {links : List Link} {rest : List Token}
    (joined : ∀ link ∈ links, link.IsJoined least)
    (apart : ∀ last ∈ links.getLast?, Apart last.run rest) :
    ReadsOperands (fun _ => factorWith unlimited) rest links := by
  induction links with
  | nil => trivial
  | cons link links ih =>
      have hfactor := (joined link List.mem_cons_self).factor
      refine ⟨fun _ => factorWith_unlimited hfactor ?_, ih ?_ ?_⟩
      · cases links with
        | nil => exact apart link rfl
        | cons other links =>
            have hother := joined other (List.mem_cons_of_mem link List.mem_cons_self)
            exact apart_binary hfactor (joins_iff.1 hother.joins).1 _
      · exact fun other hother => joined other (List.mem_cons_of_mem link hother)
      · intro last hlast
        refine apart last ?_
        rw [List.getLast?_cons, show links.getLast? = some last from hlast]
        rfl

/-- **What a climb returns.**  If the tokens begin with binary operators of at least precedence
`least` and the tokens of a factor behind each of them, and if what follows goes on neither behind
the last factor nor behind the row, then a climb takes exactly these tokens, and the tree it returns
is that of the row: powers are joined from right to left, then products and quotients from left to
right, and then sums and differences, and nothing is left beside the tree.  Within a limited number
of frames the climb returns the same tree, unless the limit is exceeded.  The operands are not looked
at, the first one is any tree, and there may be no operators at all. -/
theorem climb_links {least : Nat} {links : List Link} {rest : List Token}
    (joined : ∀ link ∈ links, link.IsJoined least)
    (apart : ∀ last ∈ links.getLast?, Apart last.run rest)
    (stops : ∀ next ∈ rest.head?, joins least next = false)
    {count : Nat} (enough : (tokens links ++ rest).length ≤ count) (around : Nat) (left : Expr) :
    climb (fun _ => factorWith unlimited) count around left least (tokens links ++ rest) =
        .ok (rowBehind left links).tree rest ∧
      (∀ frames, (climb (factors frames) count around left least (tokens links ++ rest)).Reads
        (rowBehind left links).tree rest) ∧
      (rowBehind left links).joinSums = ⟨(rowBehind left links).tree, []⟩ := by
  have hunlimited : climb (fun _ => factorWith unlimited) count around left least
      (tokens links ++ rest) = .ok (rowBehind left links).tree rest := by
    rw [climb_count (fun _ => advances_factorWith_unlimited) enough]
    exact climbAll_links (fun _ => advances_factorWith_unlimited)
      (readsOperands_factors joined apart) (fun link hlink => (joined link hlink).joins) stops
      around left
  refine ⟨hunlimited, fun frames => ?_, Row.joinSums_whole fun op hop => ?_⟩
  · have hoperands (around : Nat) : Agree (factors frames around) (factorWith unlimited) :=
      factorWith_agree (primary_agrees_unlimited (frames - around - 1))
    rcases climb_agree (advances_factors frames) hoperands count around left least
      (tokens links ++ rest) with deep | heq
    · exact Or.inr deep
    · exact Or.inl (heq.trans hunlimited)
  · obtain ⟨x, hx, rfl⟩ := List.mem_map.1 hop
    obtain ⟨link, hlink, rfl⟩ := List.mem_map.1 hx
    exact (joins_iff.1 (joined link hlink).joins).1

/-- Two powers in a product between two differences, in front of a parenthesis. -/
theorem climb_links_powers :
    let zero : Expr := .number someNumber
    let link (kind : Kind) : Link := ⟨{ kind }, [someNumber], zero⟩
    let links := [link .minus, link .multiply, link .exponent, link .exponent, link .minus]
    (∀ link ∈ links, link.IsJoined 1) ∧ (∀ last ∈ links.getLast?, Apart last.run [someClosing]) ∧
      (∀ next ∈ [someClosing].head?, joins 1 next = false) ∧
      climb (fun _ => factorWith unlimited) 11 0 zero 1 (tokens links ++ [someClosing]) =
        .ok (.binary (.binary zero (.binary zero (.binary zero (.binary zero zero
          { kind := .exponent }) { kind := .exponent }) { kind := .multiply }) { kind := .minus })
          zero { kind := .minus }) [someClosing] := by
  intro zero link links
  have hfactor : Phrase .factor [someNumber] zero := .ofPrimary phrase_someNumber
  have joined : ∀ link ∈ links, link.IsJoined 1 := by
    have joins_all : ∀ kind ∈ [Kind.minus, .multiply, .exponent, .exponent, .minus],
        joins 1 { kind } = true := by decide
    intro other hother
    obtain ⟨kind, hkind, rfl⟩ : ∃ kind ∈ [Kind.minus, .multiply, .exponent, .exponent, .minus],
        link kind = other := List.mem_map.1 hother
    exact ⟨joins_all kind hkind, hfactor⟩
  have apart : ∀ last ∈ links.getLast?, Apart last.run [someClosing] := by
    rintro last ⟨rfl⟩ next ⟨rfl⟩
    refine ⟨by decide, not_viable_of_ends hfactor ?_⟩
    exact (closes_closeParen rfl []).ends .factor
  have stops : ∀ next ∈ [someClosing].head?, joins 1 next = false := by
    rintro next ⟨rfl⟩
    rfl
  exact ⟨joined, apart, stops, (climb_links joined apart stops (by decide) 0 zero).1⟩

end Reader

end Formula
