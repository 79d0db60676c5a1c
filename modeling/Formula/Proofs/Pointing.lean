import Formula.Proofs.Spans
import Formula.Proofs.Stopping
import Formula.Session
set_option autoImplicit false

/-!
# Where problems of reading point

A source that is no expression is refused with a problem that points at the first token that does
not continue an expression, or at the end of the source if every token does.  The tokens stand in
the source where their starts say, so the span of the problem is that token, and the diagnosis is
the source with a caret and tildes under it.
-/

namespace Formula

open Grammar
open Text (Style)

/-! ## The first token that does not continue a phrase -/

section FirstStuck

variable {α : Type} {G : List Token → α → Prop} {ts : List Token} {k : Nat}

/-- `k` is the least index such that no phrase of the form `G` begins with the tokens up to the one
at `k` and with that one, or the number of tokens if all of them begin one. -/
structure FirstStuck (G : List Token → α → Prop) (ts : List Token) (k : Nat) : Prop where
  le : k ≤ ts.length
  stuck : k < ts.length → ¬ Viable G (ts.take (k + 1))
  least : ∀ j < k, Viable G (ts.take (j + 1))

theorem FirstStuck.unique {k' : Nat} (h : FirstStuck G ts k) (h' : FirstStuck G ts k') :
    k = k' := by
  have one_way {k k' : Nat} (h : FirstStuck G ts k) (h' : FirstStuck G ts k') : k ≤ k' := by
    refine Nat.le_of_not_lt fun hlt => ?_
    exact h'.stuck (Nat.lt_of_lt_of_le hlt h.le) (h.least k' hlt)
  exact Nat.le_antisymm (one_way h h') (one_way h' h)

/-- The first token that does not continue a phrase stands behind the longest viable prefix. -/
theorem Grammar.LongestViable.firstStuck {front rest : List Token}
    (h : LongestViable G ts front rest) : FirstStuck G ts front.length := by
  obtain ⟨rfl, viable, longest⟩ := h
  refine ⟨?_, fun hlt hviable => ?_, fun j hj => ?_⟩
  · rw [List.length_append]
    exact Nat.le_add_right _ _
  · have le := longest _ _ (List.take_append_drop (front.length + 1) _).symm hviable
    rw [List.length_take] at le
    omega
  · rw [List.take_append_of_le_length hj]
    rw [← List.take_append_drop (j + 1) front] at viable
    exact viable.front

end FirstStuck

/-! ## Diagnosis -/

/-- A text is its parts before, between and behind two positions. -/
theorem Text.takeTo_cut_dropTo (cs : List Char) {start stop : Int} (h : 0 ≤ start)
    (le : start ≤ stop) :
    takeTo cs start ++ cut cs start stop ++ dropTo cs stop = cs := by
  have hclamp : clampIndex cs.length start ≤ clampIndex cs.length stop := by
    unfold clampIndex
    split <;> split <;> omega
  have hfront : cs.take (clampIndex cs.length start) =
      (cs.take (clampIndex cs.length stop)).take (clampIndex cs.length start) := by
    rw [List.take_take, Nat.min_eq_left hclamp]
  rw [takeTo, cut, dropTo, hfront, List.take_append_drop, List.take_append_drop]

/-- The line under the source of a problem: a caret under the first character of its span, and
tildes under the others. -/
def Problem.underline (p : Problem) : String :=
  String.ofList (List.replicate (p.start + 2).toNat ' ') ++ "^"
    ++ String.ofList (List.replicate (p.stop - p.start - 1).toNat '~')

theorem Problem.diagnose_plain {p : Problem} (h : 0 ≤ p.start) (lt : p.start < p.stop)
    (isWarning : Bool) :
    p.diagnose .plain isWarning = "  " ++ p.snippet ++ "\n" ++ p.underline := by
  have hstop : p.markedStop = p.stop := by
    rw [markedStop]
    omega
  have hsnippet : String.ofList (Text.takeTo p.snippet.toList p.start)
      ++ String.ofList (Text.cut p.snippet.toList p.start p.stop)
      ++ String.ofList (Text.dropTo p.snippet.toList p.stop) = p.snippet := by
    rw [← String.ofList_append, ← String.ofList_append,
      Text.takeTo_cut_dropTo _ h (Int.le_of_lt lt), String.ofList_toList]
  have hindent : "  " ++ String.ofList (Text.copies ' ' p.start) =
      String.ofList (List.replicate (p.start + 2).toNat ' ') := by
    have hlength : (p.start + 2).toNat = p.start.toNat + 2 := by omega
    rw [hlength, ← String.toList_inj]
    simp [Text.copies, List.replicate_succ]
  have htildes : String.ofList ('^' :: Text.copies '~' (p.stop - p.start - 1)) =
      "^" ++ String.ofList (List.replicate (p.stop - p.start - 1).toNat '~') := by
    rw [← String.toList_inj]
    simp [Text.copies]
  calc p.diagnose .plain isWarning
    _ = "  " ++ String.ofList (Text.takeTo p.snippet.toList p.start)
          ++ String.ofList (Text.cut p.snippet.toList p.start p.stop)
          ++ String.ofList (Text.dropTo p.snippet.toList p.stop) ++ "\n"
          ++ "  " ++ String.ofList (Text.copies ' ' p.start)
          ++ String.ofList ('^' :: Text.copies '~' (p.stop - p.start - 1)) := by
        rw [diagnose, hstop]
        rfl
    _ = "  " ++ (String.ofList (Text.takeTo p.snippet.toList p.start)
          ++ String.ofList (Text.cut p.snippet.toList p.start p.stop)
          ++ String.ofList (Text.dropTo p.snippet.toList p.stop)) ++ "\n"
          ++ ("  " ++ String.ofList (Text.copies ' ' p.start)
            ++ String.ofList ('^' :: Text.copies '~' (p.stop - p.start - 1))) := by
        simp only [String.append_assoc]
    _ = "  " ++ p.snippet ++ "\n" ++ p.underline := by
        rw [hsnippet, hindent, htildes, underline]
        simp only [String.append_assoc]

/-! ## The span of a problem -/

/-- The problem with the source is one of its token at `k`, or of its end if there are only `k`
tokens: it says what is wrong there, and its span and its diagnosis show where. -/
structure Problem.PointsAt (source : String) (k : Nat) (p : Problem) : Prop where
  start : p.start = ((Token.ofText source)[k]?.map Token.start).getD source.length
  nonnegative : 0 ≤ p.start
  expected : ∀ what, p.cause = .expected what → p.stop = p.start + 1
  unexpected : ∀ what, p.cause = .unexpected what →
    (Token.ofText source)[k]?.map Token.text = some what ∧
      p.stop = p.start + what.length ∧ Text.cut source.toList p.start p.stop = what.toList
  diagnosis : source ≠ "" → ∀ isWarning,
    p.diagnose .plain isWarning = "  " ++ source ++ "\n" ++ p.underline

namespace Token

variable {source : String} {t : Token}

/-- A token stands in its text from its start on. -/
theorem cut_of_mem_ofText (h : t ∈ ofText source) :
    0 ≤ t.start ∧ t.start < t.start + t.text.length ∧
      Text.cut source.toList t.start (t.start + t.text.length) = t.text.toList := by
  have hcut := ((partitions_iff 0 _ _).2 rfl).cut t h
  have hlt : t.start < t.start + t.text.length := hcut.start_lt_stop
  obtain ⟨before, rest, hsource, hstart, _⟩ := hcut
  have hlength : t.text.toList.length = t.text.length := String.length_toList
  refine ⟨by omega, hlt, ?_⟩
  have hfirst : Text.clampIndex source.toList.length t.start = before.length := by
    rw [hsource, Text.clampIndex, List.length_append]
    split <;> omega
  have hlast : Text.clampIndex source.toList.length (t.start + t.text.length) =
      (before ++ t.text.toList).length := by
    rw [hsource, Text.clampIndex, List.length_append, List.length_append, List.length_append]
    split <;> omega
  rw [Text.cut, hfirst, hlast, hsource, ← List.append_assoc, List.take_left, List.drop_left]

end Token

section PointsAt

variable {style : Style} {source : String} {k : Nat}

theorem Problem.diagnose_inSource {cause : Cause} {message : String} {start length : Int}
    (h : 0 ≤ start) (lt : 0 < length) (isWarning : Bool) :
    (inSource cause message source start length).diagnose .plain isWarning =
      "  " ++ source ++ "\n" ++ (inSource cause message source start length).underline := by
  have hstop : stopOr source (start + length) = start + length := if_neg (by omega)
  have beyond : start < stopOr source (start + length) := by omega
  exact diagnose_plain h beyond isWarning

/-- Something is missing at a token, or at the end of the source. -/
theorem Problem.pointsAt_expected {what : String} {start : Int}
    (hstart : start = ((Token.ofText source)[k]?.map Token.start).getD source.length)
    (h : 0 ≤ start) : (expected style what source start 1).PointsAt source k where
  start := hstart
  nonnegative := h
  expected _ _ := if_neg (by omega)
  unexpected _ hcause := nomatch hcause
  diagnosis _ := diagnose_inSource h (by decide)

/-- A token has no place where it stands. -/
theorem Problem.pointsAt_unexpected {t : Token} (ht : (Token.ofText source)[k]? = some t) :
    (unexpected style t.text source (max t.start 0) t.text.length).PointsAt source k := by
  obtain ⟨h, lt, hcut⟩ := Token.cut_of_mem_ofText (List.mem_of_getElem? ht)
  rw [Int.max_eq_left h]
  have hstop : stopOr source (t.start + t.text.length) = t.start + t.text.length :=
    if_neg (by omega)
  refine ⟨?_, h, fun _ hcause => (nomatch hcause), fun what hcause => ?_, fun _ => ?_⟩
  · rw [ht]
    rfl
  · cases hcause
    refine ⟨by rw [ht]; rfl, hstop, ?_⟩
    dsimp only [unexpected, inSource]
    rw [hstop, hcut]
  · exact diagnose_inSource h (by omega)

/-- What the reader of whole expressions refuses behind the longest prefix that begins one is a
problem that points there. -/
theorem pointsAt_ofRefusal {front stuck rest : List Token} {refusal : Refusal} {p : Problem}
    (hsplit : Token.ofText source = front ++ stuck)
    (h : Reader.RefusesAt front stuck refusal rest)
    (hp : Failure.ofRefusal style source refusal rest = .problem p) :
    p.PointsAt source front.length := by
  have hnext : (Token.ofText source)[front.length]? = stuck.head? := by
    rw [hsplit, List.getElem?_append_right (Nat.le_refl _), Nat.sub_self, List.head?_eq_getElem?]
  cases refusal with
  | expected what =>
      obtain rfl : rest = stuck := h.rest_of_expected
      cases hp
      cases rest with
      | nil =>
          refine Problem.pointsAt_expected ?_ (Int.natCast_nonneg _)
          rw [hnext]
          rfl
      | cons t rest =>
          have hmem : t ∈ Token.ofText source := by
            rw [hsplit]
            exact List.mem_append_right front List.mem_cons_self
          have hstart := (Token.cut_of_mem_ofText hmem).1
          refine Problem.pointsAt_expected ?_ (Int.le_max_right _ _)
          rw [hnext, Failure.columnOf, Int.max_eq_left hstart]
          rfl
  | unexpected t =>
      cases hp
      exact Problem.pointsAt_unexpected (hnext.trans h.head_of_unexpected)
  | blankNumber => cases hp
  | tooDeep => cases hp

/-- A problem of reading points at the first token that does not continue an expression, or at the
end of the source if every token does; unless the expression is nested too deeply, which is a
problem of another cause. -/
theorem Expr.ofSource_points {p : Problem} (h : Expr.ofSource style source = .error (.problem p))
    (hcause : ∀ what, p.cause ≠ .notAnExpression what) :
    (∃ k, FirstStuck (Phrase .sum) (Token.ofText source) k) ∧
      ∀ k, FirstStuck (Phrase .sum) (Token.ofText source) k → p.PointsAt source k := by
  unfold Expr.ofSource Expr.ofTokens at h
  cases hread : Reader.whole Reader.frameLimit (Token.ofText source) with
  | ok e rest =>
      rw [hread] at h
      cases h
  | fail refusal rest =>
      rw [hread] at h
      have hfailure : Failure.ofWholeRefusal style source refusal rest = .problem p :=
        Except.error.inj h
      have room : refusal ≠ .tooDeep := by
        rintro rfl
        cases hfailure
        exact hcause _ rfl
      rw [Failure.ofWholeRefusal_eq room] at hfailure
      obtain ⟨front, stuck, hlongest, hrefuses⟩ := Reader.whole_refusesAt hread room
      refine ⟨⟨front.length, hlongest.firstStuck⟩, fun k hk => ?_⟩
      rw [hk.unique hlongest.firstStuck]
      exact pointsAt_ofRefusal hlongest.split hrefuses hfailure

end PointsAt

/-- A numeral that is no number has been taken when it is refused, and is pointed at all the
same. -/
theorem Expr.ofSource_points_numeral :
    ∃ p, Expr.ofSource .plain "1 + ²" = .error (.problem p) ∧
      ((∃ k, FirstStuck (Phrase .sum) (Token.ofText "1 + ²") k) ∧
        ∀ k, FirstStuck (Phrase .sum) (Token.ofText "1 + ²") k → p.PointsAt "1 + ²" k) ∧
      p.diagnose .plain false = "  1 + ²\n      ^" := by
  have refused : Expr.ofTokens (Token.ofText "1 + ²") =
      .fail (.unexpected ⟨.number, some "²", 4⟩) [] := by decide +kernel
  have hread : Expr.ofSource .plain "1 + ²" =
      .error (.problem (.unexpected .plain "²" "1 + ²" 4 1)) := by
    rw [Expr.ofSource, refused]
    rfl
  exact ⟨_, hread, Expr.ofSource_points hread fun what hcause => (nomatch hcause),
    by decide +kernel⟩

end Formula
