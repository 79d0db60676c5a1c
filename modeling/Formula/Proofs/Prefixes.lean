import Formula.Proofs.Grammar
set_option autoImplicit false

/-!
# Prefixes of phrases

Tokens that begin a phrase need not be one yet: `2 +` begins a sum, `2 )` begins none.  A prefix
is viable if some tokens behind it complete it, and it is the longest viable prefix of a list if no
longer one is.

Viability passes from the inside to the outside: what may go on inside a part of a phrase may go on
inside the phrase.  That is one lemma for each rule of the grammar in which a part is preceded by
other tokens, all of them instances of `Viable.within`.
-/

namespace Formula.Grammar

variable {α β : Type} {G : List Token → α → Prop} {H : List Token → β → Prop}

/-- Some tokens behind the given ones make them a phrase of the form `G`. -/
def Viable (G : List Token → α → Prop) (ts : List Token) : Prop := ∃ more x, G (ts ++ more) x

theorem Viable.of_phrase {ts : List Token} {x : α} (h : G ts x) : Viable G ts := by
  refine ⟨[], x, ?_⟩
  rw [List.append_nil]
  exact h

/-- The front of a viable prefix is viable. -/
theorem Viable.front {ts us : List Token} (h : Viable G (ts ++ us)) : Viable G ts := by
  obtain ⟨more, x, hphrase⟩ := h
  rw [List.append_assoc] at hphrase
  exact ⟨us ++ more, x, hphrase⟩

/-- If every phrase of one form, with `before` in front of it, can be completed to one of another
form, then viable prefixes of the one are viable behind `before` for the other. -/
theorem Viable.within {before ts : List Token} (h : Viable G ts)
    (context : ∀ us x, G us x → ∃ more y, H (before ++ us ++ more) y) : Viable H (before ++ ts) := by
  obtain ⟨more, x, hphrase⟩ := h
  obtain ⟨others, y, hwhole⟩ := context _ x hphrase
  refine ⟨more ++ others, y, ?_⟩
  simpa only [List.append_assoc] using hwhole

/-! ## The longest viable prefix -/

/-- The tokens are `front` followed by `rest`, and `front` is the longest viable prefix of them. -/
structure LongestViable (G : List Token → α → Prop) (ts front rest : List Token) : Prop where
  split : ts = front ++ rest
  viable : Viable G front
  longest : ∀ others behind, ts = others ++ behind → Viable G others →
    others.length ≤ front.length

/-- A list has one longest viable prefix at most. -/
theorem LongestViable.unique {ts front front' rest rest' : List Token}
    (h : LongestViable G ts front rest) (h' : LongestViable G ts front' rest') :
    front = front' ∧ rest = rest' := by
  have hle : front.length ≤ front'.length := h'.longest front rest h.split h.viable
  have hge : front'.length ≤ front.length := h.longest front' rest' h'.split h'.viable
  exact List.append_inj (h.split.symm.trans h'.split) (by omega)

/-- A viable prefix is the longest one if it is not viable with the next token. -/
theorem LongestViable.of_next {ts front rest : List Token} (split : ts = front ++ rest)
    (viable : Viable G front) (next : ∀ t ∈ rest.head?, ¬ Viable G (front ++ [t])) :
    LongestViable G ts front rest where
  split := split
  viable := viable
  longest others behind hsplit hviable := by
    refine Nat.le_of_not_lt fun hlonger => ?_
    -- a longer prefix would begin with the next token
    obtain ⟨between, rfl⟩ : front <+: others := by
      refine List.prefix_of_prefix_length_le (List.prefix_append front rest) ?_ (by omega)
      rw [← split, hsplit]
      exact List.prefix_append others behind
    cases between with
    | nil => simp at hlonger
    | cons t between =>
        rw [split, List.append_assoc, List.append_cancel_left_eq] at hsplit
        have continued : Viable G ((front ++ [t]) ++ between) := by
          rw [List.append_assoc]
          exact hviable
        exact next t (by rw [hsplit]; rfl) continued.front

/-! ## Tokens that complete a phrase -/

/-- A number that is a literal. -/
def someNumber : Token := { kind := .number, lexeme := some "0" }

/-- An identifier. -/
def someMember : Token := { kind := .identifier, lexeme := some "x" }

/-- A closing parenthesis. -/
def someClosing : Token := { kind := .closeParen }

theorem phrase_someNumber : Phrase .primary [someNumber] (.number someNumber) :=
  .number rfl rfl (by decide +kernel)

theorem viable_nil (q : Nonterminal) : Viable (Phrase q) [] := by
  have hsome : Phrase q [someNumber] (.number someNumber) :=
    phrase_someNumber.loosen (by cases q <;> decide)
  exact ⟨[someNumber], _, hsome⟩

/-! ## Names -/

theorem viable_members_period {period : Token} (h : period.kind = .period) :
    Viable Members [period] :=
  ⟨[someMember], _, .more h rfl .none⟩

theorem Viable.further {period member : Token} {ts : List Token} (h : Viable Members ts)
    (hperiod : period.kind = .period) (hmember : member.kind = .identifier) :
    Viable Members ([period, member] ++ ts) := by
  refine h.within fun us members hus => ⟨[], member :: members, ?_⟩
  rw [List.append_nil]
  exact .more hperiod hmember hus

theorem viable_identifier_nil : Viable Identifier [] := ⟨[someMember], _, .members rfl .none⟩

theorem Viable.identifier {first : Token} {ts : List Token} (h : Viable Members ts)
    (hfirst : first.kind = .identifier) : Viable Identifier ([first] ++ ts) := by
  refine h.within fun us others hus => ⟨[], ⟨first, others⟩, ?_⟩
  rw [List.append_nil]
  exact .members hfirst hus

/-! ## Phrases and arguments -/

/-- What begins a tightly bound phrase begins a looser one. -/
theorem Viable.loosen {p q : Nonterminal} {ts : List Token} (h : Viable (Phrase p) ts)
    (le : q.rank ≤ p.rank) : Viable (Phrase q) ts := by
  obtain ⟨more, e, hphrase⟩ := h
  exact ⟨more, e, hphrase.loosen le⟩

/-- The right operand of an operator. -/
theorem Viable.rightOperand {op : Token} {as ts : List Token} {a : Expr}
    (hbinary : op.kind.isBinary = true) (lhs : Phrase (leftOf op.kind) as a)
    (h : Viable (Phrase (rightOf op.kind)) ts) : Viable (Phrase (made op.kind)) (as ++ op :: ts) := by
  have whole : Viable (Phrase (made op.kind)) ((as ++ [op]) ++ ts) := by
    refine h.within fun us b hus => ⟨[], .binary a b op, ?_⟩
    rw [List.append_nil, List.append_assoc, List.singleton_append]
    exact .join rfl hbinary lhs hus
  rw [List.append_assoc, List.singleton_append] at whole
  exact whole

/-- The operand behind a minus or a negation sign. -/
theorem Viable.operand {sign : Token} {ts : List Token} (h : Viable (Phrase .primary) ts)
    (hsign : sign.kind = .minus ∨ sign.kind = .negate) :
    Viable (Phrase .primary) ([sign] ++ ts) := by
  refine h.within fun us e hus => ⟨[], ?_⟩
  rw [List.append_nil]
  rcases hsign with hsign | hsign
  · exact ⟨_, .minus hsign hus⟩
  · exact ⟨_, .negation hsign hus⟩

/-- The expression between parentheses. -/
theorem Viable.group {opening : Token} {ts : List Token} (h : Viable (Phrase .sum) ts)
    (hopening : opening.kind = .openParen) : Viable (Phrase .primary) ([opening] ++ ts) :=
  h.within fun _ e hus => ⟨[someClosing], e, .group hopening hus rfl⟩

/-- The arguments of a call. -/
theorem Viable.call {opening : Token} {ts us : List Token} {name : Name} (h : Viable Arguments us)
    (hname : Identifier ts name) (hopening : opening.kind = .openParen) :
    Viable (Phrase .primary) (ts ++ [opening] ++ us) := by
  refine h.within fun vs arguments hvs => ⟨[someClosing], .call name arguments, ?_⟩
  rw [List.append_assoc ts]
  exact .call hname hopening hvs rfl

theorem Viable.name {ts : List Token} (h : Viable Identifier ts) : Viable (Phrase .primary) ts := by
  obtain ⟨more, name, hname⟩ := h
  exact ⟨more, .identifier name, .name hname⟩

theorem Viable.argument {ts : List Token} (h : Viable (Phrase .sum) ts) : Viable Arguments ts := by
  obtain ⟨more, e, hphrase⟩ := h
  exact ⟨more, [e], .one hphrase⟩

theorem Viable.furtherArguments {comma : Token} {as ts : List Token} {a : Expr}
    (h : Viable Arguments ts) (first : Phrase .sum as a) (hcomma : comma.kind = .comma) :
    Viable Arguments ((as ++ [comma]) ++ ts) := by
  refine h.within fun us es hus => ⟨[], a :: es, ?_⟩
  rw [List.append_nil, List.append_assoc, List.singleton_append]
  exact .more first hcomma hus

/-! ## Where a primary may start -/

/-- Behind the tokens every primary may stand: the two of them begin a phrase. -/
def AwaitsPrimary (G : List Token → α → Prop) (ts : List Token) : Prop :=
  ∀ us e, Phrase .primary us e → Viable G (ts ++ us)

end Formula.Grammar
