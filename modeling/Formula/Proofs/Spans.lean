import Formula.Proofs.Matching
set_option autoImplicit false

/-!
# The tokens of a text partition it

Each token covers the columns from its start on, one for each character of its text.  The spans of
the tokens of a text follow each other without meeting, what is left between them is blank, and
each token is what the rules make of the text from its start on.  Only one list of tokens has these
properties (`partitions_iff`).

The three ways in which the lexer goes on, at the end, at a blank and at a token, are three lemmas
about partitions, and each is an equivalence.
-/

namespace Formula

namespace Token

open Text

/-! ## Spans -/

/-- The column behind the token. -/
def stop (t : Token) : Int := t.start + t.text.length

/-- Does the column belong to the token? -/
def Covers (t : Token) (column : Int) : Prop := t.start ≤ column ∧ column < t.stop

/-- The token stands in the text `cs`, whose first character is in the column `first`, and it is
what the rules make of the text from its start on. -/
def CutFrom (first : Nat) (cs : List Char) (t : Token) : Prop :=
  ∃ before rest, cs = before ++ (t.text.toList ++ rest) ∧ t.start = first + before.length ∧
    Munched (t.text.toList ++ rest) t

/-- The tokens partition the text `cs`, whose first character is in the column `first`. -/
structure Partitions (first : Nat) (cs : List Char) (ts : List Token) : Prop where
  /-- Every token ends before the next one starts. -/
  disjoint : ts.Pairwise fun t u => t.stop ≤ u.start
  /-- Every token was cut from the text. -/
  cut : ∀ t ∈ ts, CutFrom first cs t
  /-- Every character that belongs to no token is blank. -/
  blank : ∀ before c rest, cs = before ++ c :: rest →
    (∀ t ∈ ts, ¬ t.Covers (first + before.length)) → isBlank c = true

variable {first : Nat} {cs rest : List Char} {c : Char} {t : Token} {ts : List Token}

/-! ## Tokens that were cut -/

theorem Munched.text_ne_nil (h : Munched cs t) : t.text.toList ≠ [] := by
  cases cs with
  | nil => cases h
  | cons c rest =>
      rw [eq_cutToken_of_munched h]
      exact text_ne_nil_of_cutToken _ c rest

theorem start_lt_stop (h : Munched cs t) : t.start < t.stop := by
  have hne := List.length_pos_iff.2 h.text_ne_nil
  rw [String.length_toList] at hne
  rw [stop]
  omega

theorem CutFrom.first_le (h : CutFrom first cs t) : first ≤ t.start := by
  obtain ⟨before, rest, _, hstart, _⟩ := h
  omega

theorem CutFrom.start_lt_stop (h : CutFrom first cs t) : t.start < t.stop := by
  obtain ⟨before, rest, _, _, hmunched⟩ := h
  exact Token.start_lt_stop hmunched

/-- What stands in the end of a text stands in the text. -/
theorem CutFrom.behind {front : List Char} (h : CutFrom (first + front.length) cs t) :
    CutFrom first (front ++ cs) t := by
  obtain ⟨before, rest, rfl, hstart, hmunched⟩ := h
  refine ⟨front ++ before, rest, by rw [List.append_assoc], ?_, hmunched⟩
  rw [List.length_append]
  omega

/-- A token that starts behind the front of a text stands in what follows the front. -/
theorem CutFrom.of_behind {front : List Char} (h : CutFrom first (front ++ cs) t)
    (hstart : (first + front.length : Int) ≤ t.start) : CutFrom (first + front.length) cs t := by
  obtain ⟨before, rest, heq, hplace, hmunched⟩ := h
  obtain ⟨between, rfl⟩ : front <+: before := by
    refine List.prefix_of_prefix_length_le (List.prefix_append front cs) ?_ (by omega)
    rw [heq]
    exact List.prefix_append before _
  rw [List.append_assoc, List.append_cancel_left_eq] at heq
  refine ⟨between, rest, heq, ?_, hmunched⟩
  rw [hplace, List.length_append]
  omega

/-- A token at the front of a text is what the lexer cuts there. -/
theorem CutFrom.at_front (h : CutFrom first (c :: rest) t) (hstart : t.start ≤ first) :
    isBlank c = false ∧ t = (cutToken first c rest).1 := by
  obtain ⟨before, others, heq, hplace, hmunched⟩ := h
  obtain rfl : before = [] := List.eq_nil_of_length_eq_zero (by omega)
  rw [List.nil_append] at heq
  rw [← heq] at hmunched
  have hfirst : t.start = first := by simpa using hplace
  have hcut := munched_iff.1 hmunched
  rw [hfirst] at hcut
  exact hcut

theorem cutFrom_cutToken (hblank : isBlank c = false) (first : Nat) (rest : List Char) :
    CutFrom first (c :: rest) (cutToken first c rest).1 := by
  have happend := cutToken_append first c rest
  refine ⟨[], (cutToken first c rest).2, happend.symm, ?_, ?_⟩
  · rw [start_cutToken, List.length_nil]
    omega
  · rw [happend]
    exact munched_cutToken hblank first rest

/-! ## Partitions -/

section Front

variable (front : List Char) (heads : List Token)

/-- What partitions a text partitions what follows the front of it, but for the tokens that end in
the front. -/
theorem Partitions.behind (h : Partitions first (front ++ cs) (heads ++ ts))
    (hstop : ∀ t ∈ heads, t.stop ≤ first + front.length)
    (hstart : ∀ t ∈ ts, (first + front.length : Int) ≤ t.start) :
    Partitions (first + front.length) cs ts where
  disjoint := (List.pairwise_append.1 h.disjoint).2.1
  cut t ht := (h.cut t (List.mem_append_right heads ht)).of_behind (hstart t ht)
  blank before c rest heq uncovered := by
    have hcolumn : (first + (front ++ before).length : Int)
        = (first + front.length : Nat) + before.length := by
      rw [List.length_append]
      omega
    refine h.blank (front ++ before) c rest (by rw [heq, List.append_assoc]) fun t ht => ?_
    rw [hcolumn]
    rcases List.mem_append.1 ht with hhead | htail
    · have hends := hstop t hhead
      rintro ⟨_, hcovers⟩
      omega
    · exact uncovered t htail

/-- Tokens that cover the front of a text but for its blanks, and tokens that partition the rest. -/
theorem Partitions.before (h : Partitions (first + front.length) cs ts)
    (hdisjoint : heads.Pairwise fun t u => t.stop ≤ u.start)
    (hstop : ∀ t ∈ heads, t.stop ≤ first + front.length)
    (hcut : ∀ t ∈ heads, CutFrom first (front ++ cs) t)
    (hblank : ∀ before c rest, front = before ++ c :: rest →
      (∀ t ∈ heads, ¬ t.Covers (first + before.length)) → isBlank c = true) :
    Partitions first (front ++ cs) (heads ++ ts) where
  disjoint := by
    refine List.pairwise_append.2 ⟨hdisjoint, h.disjoint, fun t ht u hu => ?_⟩
    have hends := hstop t ht
    have hbegins := (h.cut u hu).first_le
    omega
  cut t ht := by
    rcases List.mem_append.1 ht with hhead | htail
    · exact hcut t hhead
    · exact (h.cut t htail).behind
  blank before c rest heq uncovered := by
    have uncoveredHeads := fun t ht => uncovered t (List.mem_append_left ts ht)
    have uncoveredTail := fun t ht => uncovered t (List.mem_append_right heads ht)
    rcases List.append_eq_append_iff.1 heq with ⟨between, rfl, hcs⟩ | ⟨others, hfront, hrest⟩
    · refine h.blank between c rest hcs fun t ht => ?_
      have hcolumn : ((first + front.length : Nat) + between.length : Int)
          = first + (front ++ between).length := by
        rw [List.length_append]
        omega
      rw [hcolumn]
      exact uncoveredTail t ht
    · cases others with
      | nil =>
          refine h.blank [] c rest hrest.symm fun t ht => ?_
          rw [hfront, List.append_nil]
          simpa using uncoveredTail t ht
      | cons d others =>
          obtain ⟨rfl, _⟩ := List.cons.inj hrest
          exact hblank before c others hfront uncoveredHeads

end Front

theorem partitions_nil : Partitions first [] ts ↔ ts = [] := by
  constructor
  · intro h
    refine List.eq_nil_iff_forall_not_mem.2 fun t ht => ?_
    obtain ⟨before, rest, heq, _, hmunched⟩ := h.cut t ht
    have hempty := (List.append_eq_nil_iff.1 heq.symm).2
    exact hmunched.text_ne_nil (List.append_eq_nil_iff.1 hempty).1
  · rintro rfl
    exact ⟨.nil, fun t ht => (nomatch ht), fun before c rest heq => by simp at heq⟩

/-- At a blank no token starts. -/
theorem partitions_blank (hblank : isBlank c = true) :
    Partitions first (c :: rest) ts ↔ Partitions (first + 1) rest ts := by
  constructor
  · intro h
    refine h.behind [c] [] (fun t ht => nomatch ht) fun t ht => ?_
    have hfirst := (h.cut t ht).first_le
    have hstart : ¬ t.start ≤ first := by
      intro hle
      rw [((h.cut t ht).at_front hle).1] at hblank
      cases hblank
    rw [List.length_singleton]
    omega
  · intro h
    refine h.before [c] [] .nil (fun t ht => nomatch ht)
      (fun t ht => nomatch ht) fun before d others heq _ => ?_
    cases before with
    | nil => rwa [(List.cons.inj heq).1] at hblank
    | cons b before => simp at heq

/-- In a partition of a text that does not begin with a blank, the first token is the one that is
cut there. -/
theorem Partitions.first_token (h : Partitions first (c :: rest) ts) (hblank : isBlank c = false) :
    ∃ others, ts = (cutToken first c rest).1 :: others := by
  -- some token covers the first column, and no token starts before it
  have covered : ∃ t ∈ ts, t.start ≤ first := by
    refine Classical.byContradiction fun none => ?_
    have hcolumn := h.blank [] c rest rfl fun t ht hcovers =>
      none ⟨t, ht, by simpa using hcovers.1⟩
    rw [hcolumn] at hblank
    cases hblank
  obtain ⟨t, ht, hstart⟩ := covered
  obtain ⟨_, rfl⟩ := (h.cut t ht).at_front hstart
  cases ts with
  | nil => cases ht
  | cons u others =>
      rcases List.mem_cons.1 ht with rfl | hmem
      · exact ⟨others, rfl⟩
      · -- the token before it would have to end before it starts
        have hends := (List.pairwise_cons.1 h.disjoint).1 _ hmem
        have hbegins := (h.cut u List.mem_cons_self).first_le
        have hspan := (h.cut u List.mem_cons_self).start_lt_stop
        omega

/-- At any other character a token is cut. -/
theorem partitions_cut (hblank : isBlank c = false) :
    Partitions first (c :: rest) ts ↔
      ∃ others, ts = (cutToken first c rest).1 :: others ∧
        Partitions (first + (cutToken first c rest).1.text.length) (cutToken first c rest).2 others := by
  have happend := cutToken_append first c rest
  have hcut := cutFrom_cutToken hblank first rest
  have hstart := start_cutToken first c rest
  have hstop : (cutToken first c rest).1.stop
      = first + ((cutToken first c rest).1.text.toList.length : Int) := by
    rw [stop, hstart, String.length_toList]
  rw [← String.length_toList]
  constructor
  · intro h
    obtain ⟨others, rfl⟩ := h.first_token hblank
    refine ⟨others, rfl, ?_⟩
    have hlater := (List.pairwise_cons.1 h.disjoint).1
    generalize cutToken first c rest = cut at *
    rw [← happend] at h
    refine h.behind _ [cut.1] (fun t ht => ?_) fun t ht => ?_
    · obtain rfl := List.mem_singleton.1 ht
      exact Int.le_of_eq hstop
    · rw [← hstop]
      exact hlater t ht
  · rintro ⟨others, rfl, h⟩
    generalize cutToken first c rest = cut at *
    rw [← happend]
    refine h.before _ [cut.1] (List.pairwise_singleton _ _) (fun t ht => ?_)
      (fun t ht => ?_) fun before d others heq uncovered => ?_
    · obtain rfl := List.mem_singleton.1 ht
      exact Int.le_of_eq hstop
    · rw [List.mem_singleton.1 ht, happend]
      exact hcut
    · -- every column of the token is one that it covers
      refine absurd ?_ (uncovered cut.1 (List.mem_singleton.2 rfl))
      have hlength := congrArg List.length heq
      rw [List.length_append, List.length_cons] at hlength
      rw [Covers, hstop, hstart]
      omega

/-- The lexer partitions a text, and nothing else does. -/
theorem partitions_iff (first : Nat) (cs : List Char) (ts : List Token) :
    Partitions first cs ts ↔ ts = scan first cs := by
  fun_induction scan first cs generalizing ts with
  | case1 first => exact partitions_nil
  | case2 first c rest hblank ih => rw [partitions_blank hblank, ih]
  | case3 first c rest hblank cut ih =>
      rw [partitions_cut (Bool.eq_false_iff.2 hblank)]
      constructor
      · rintro ⟨others, rfl, h⟩
        rw [(ih others).1 h]
      · intro h
        exact ⟨_, h, (ih _).2 rfl⟩

/-- Every token takes a character at least. -/
theorem length_scan_le (first : Nat) (cs : List Char) : (scan first cs).length ≤ cs.length := by
  fun_induction scan first cs with
  | case1 => exact Nat.le_refl 0
  | case2 first c rest hblank ih => exact Nat.le_succ_of_le ih
  | case3 first c rest hblank cut ih =>
      have hrest : cut.2.length < (c :: rest).length := length_of_cutToken first c rest
      exact Nat.succ_le_of_lt (Nat.lt_of_le_of_lt ih hrest)

/-- The tokens of a text partition it by longest matches, no other tokens do, and none of them is
a negation sign, which no text spells. -/
theorem ofText_partitions (source : String) :
    Partitions 0 source.toList (ofText source) ∧
      (∀ ts, Partitions 0 source.toList ts → ts = ofText source) ∧
      (∀ t ∈ ofText source, t.kind ≠ .negate) ∧
      (ofText source).length ≤ source.length := by
  refine ⟨(partitions_iff 0 _ _).2 rfl, fun ts => (partitions_iff 0 _ ts).1, fun t ht => ?_, ?_⟩
  · exact kind_ne_negate (spelled_of_mem_scan ht)
  · rw [← String.length_toList]
    exact length_scan_le 0 source.toList

example : (ofText "1..2.a").map (fun t => (t.text, t.start)) =
    [("1.", 0), (".2", 2), (".", 4), ("a", 5)] := by cbv

end Token

end Formula
