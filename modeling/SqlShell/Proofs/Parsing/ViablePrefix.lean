import SqlShell.Proofs.Parsing.Predictive
/-!
# Where parsing fails

All readers of the grammar are predictive, from expressions up to statements, and so are batches of statements
(`readBatch_fails`). For a text this means that a parse error points at the first impossible token
(`parse_error_at_first_impossible_token`): the tokens before it are the beginning of a text that can be parsed, and
together with it they are not.
-/

namespace SqlShell

open Reader

namespace Parsing

variable {followers : List Token.Kind} {tokens rest : List Token} {t : Token} {f : Failure}
  {parenthesized : Option (Phrase Expression)}

/-! ### Primaries -/

theorem readPrimary_predictive
    (hinner : ∀ inner ∈ parenthesized, Predictive [placeholder] [.symbol .rightParen] inner.read)
    (followers : List Token.Kind) : Predictive [placeholder] followers (readPrimary parenthesized) := by
  refine Predictive.ofFirst rfl (fun t => ?_) (.pure followers _) (readPrimary_of_term rfl)
  by_cases hterm : isTerm t.kind = true
  · exact .reads (.pure followers _) (readPrimary_of_term hterm)
  · by_cases hopening : ∃ inner, parenthesized = some inner ∧ t.kind = .symbol .leftParen
    · obtain ⟨inner, rfl, hparen⟩ := hopening
      have hbody : Predictive [placeholder] followers (readParenthesized inner) :=
        (hinner inner rfl).bind fun e => (Predictive.symbol .rightParen followers).bind fun _ => .pure followers e
      exact .reads hbody (readPrimary_of_parenthesis hparen)
    · have hnone (hparen : t.kind = .symbol .leftParen) : parenthesized = none :=
        Option.eq_none_iff_forall_ne_some.2 fun inner h => hopening ⟨inner, h, hparen⟩
      obtain ⟨expected, herror⟩ := readPrimary_of_other hterm hnone
      exact .fails herror

/-! ### Operands -/

theorem head?_dropWhile_isPrefixSign (tokens : List Token) :
    ∀ t ∈ (tokens.dropWhile (isPrefixSign ·.kind)).head?, isPrefixSign t.kind = false := by
  intro t ht
  have hnot := List.head?_dropWhile_not (isPrefixSign ·.kind) tokens
  rw [Option.mem_def.1 ht] at hnot
  simpa using hnot

theorem readOperand_predictive
    (hprimary : Predictive [placeholder] followers (readPrimary parenthesized)) :
    Predictive [placeholder] followers (readOperand parenthesized) := by
  have hno {body other : List Token} (h : SameAhead [placeholder] body other)
      (hbody : ∀ t ∈ body.head?, isPrefixSign t.kind = false) : ∀ t ∈ other.head?, isPrefixSign t.kind = false :=
    h.forall_head? hbody fun t ht => by rw [List.mem_singleton.1 ht]; rfl
  have hsplit (tokens : List Token) : ∃ signs body, tokens = signs ++ body ∧
      (∀ sign ∈ signs, isPrefixSign sign.kind = true) ∧ ∀ t ∈ body.head?, isPrefixSign t.kind = false :=
    ⟨_, _, List.takeWhile_append_dropWhile.symm, List.all_eq_true.1 List.all_takeWhile,
      head?_dropWhile_isPrefixSign tokens⟩
  have hunder (signs : List Token) :
      Predictive [placeholder] followers (underSigns signs <$> readPrimary parenthesized) :=
    hprimary.map _
  refine ⟨fun {tokens e rest} h => ?_, fun {tokens f} h => ?_, ?_⟩
  · obtain ⟨signs, body, rfl, hsigns, hbody⟩ := hsplit tokens
    rw [readOperand_of_signs hsigns hbody] at h
    obtain ⟨taken, rfl, hreads, hnil⟩ := (hunder signs).reads h
    refine ⟨signs ++ taken, (List.append_assoc ..).symm, fun other hother => ?_, fun hempty => ?_⟩
    · rw [List.append_assoc, readOperand_of_signs hsigns (hno (hother.append hnil) hbody), hreads other hother]
    · exact hnil (List.append_eq_nil_iff.1 hempty).2
  · obtain ⟨signs, body, rfl, hsigns, hbody⟩ := hsplit tokens
    rw [readOperand_of_signs hsigns hbody] at h
    obtain ⟨taken, rfl, hfails, more, e, hmore, hsame⟩ := (hunder signs).mends h
    refine ⟨signs ++ taken, (List.append_assoc ..).symm, fun other hother => ?_, more, e, fun rest hrest => ?_⟩
    · rw [List.append_assoc, readOperand_of_signs hsigns (hno (.inl (head?_append_of_eq hother)) hbody),
        hfails other hother]
    · rw [List.append_assoc, List.append_assoc, readOperand_of_signs hsigns (hno (hsame rest hrest) hbody),
        ← List.append_assoc]
      exact hmore rest hrest
  · obtain ⟨more, e, hmore, hheads, hnil⟩ := (hunder []).starts
    refine ⟨more, e, fun rest hrest => ?_, hheads, hnil⟩
    have hopen : FollowedBy [placeholder] (more ++ rest) :=
      FollowedBy.append hheads fun hempty => hrest.mono (hnil hempty)
    have hnothing : ∀ t ∈ ([] : List Token).head?, isPrefixSign t.kind = false := by simp
    have hread : readOperand parenthesized ([] ++ (more ++ rest)) = _ :=
      readOperand_of_signs (by simp) (hno (.inr hopen) hnothing)
    exact hread.trans (hmore rest hrest)

/-! ### Expressions -/

section

variable (hfollowers : ∀ kind ∈ followers, level? kind = none)
include hfollowers

theorem climb_predictive {operand : Phrase Expression} {heads : List Token.Kind}
    (hoperand : Predictive heads followers operand.read) (least : Nat) :
    Predictive heads followers (climb operand least).read := by
  apply climb_induction fun phrase => Predictive heads followers phrase.read
  intro least ih
  refine Predictive.joined ih ?_ hoperand
  intro kind hkind
  rw [rightSide?_eq_none_iff, precedence?_eq, hfollowers kind hkind]
  nofun

/-- An expression in front of anything but a binary operator. -/
theorem expression_predictive (nesting : Nat) :
    Predictive [placeholder] followers (expression nesting).read := by
  induction nesting generalizing followers with
  | zero => exact climb_predictive hfollowers (readOperand_predictive (readPrimary_predictive (by simp) _)) _
  | succ nesting ih =>
    refine climb_predictive hfollowers (readOperand_predictive (readPrimary_predictive ?_ _)) _
    rintro _ ⟨⟩
    exact ih (by simp [level?])

end

/-! ### Parts of statements -/

/-- What stands behind a statement that is not the last one. -/
def statementFollowers : List Token.Kind := [.symbol .semicolon]

theorem namedAs?_predictive (expected : Expectation) (hfollowers : .keyword .as_ ∉ followers) :
    Predictive followers followers (namedAs? expected) :=
  (Predictive.identifier expected followers).clause hfollowers

theorem readSelectItem_predictive (nesting : Nat) :
    Predictive [placeholder] [.keyword .from_] (readSelectItem nesting) := by
  refine Predictive.take? (fun star _ => .pure _ (SelectItem.star star)) ?_ (by decide)
  exact (expression_predictive (by simp [level?]) nesting).bind fun e =>
    (namedAs?_predictive .columnAlias (by decide)).bind fun columnAlias => .pure _ (SelectItem.expression e columnAlias)

theorem condition?_predictive (nesting : Nat) :
    Predictive statementFollowers statementFollowers (condition? nesting) :=
  (expression_predictive (by simp [statementFollowers, level?]) nesting).clause (by decide)

theorem descending_predictive : Predictive statementFollowers statementFollowers descending :=
  Predictive.keyword? (.pure _ true) (Predictive.keyword? (.pure _ false) (.pure _ false) (by decide)) (by decide)

theorem readSortKey_predictive (nesting : Nat) :
    Predictive [placeholder] statementFollowers (readSortKey nesting) :=
  (expression_predictive (by simp [statementFollowers, level?]) nesting).bind fun e =>
    descending_predictive.bind fun d => .pure _ (SortKey.mk e d)

theorem readRow_predictive (nesting : Nat) :
    Predictive [.symbol .leftParen] statementFollowers (readRow nesting) :=
  have hvalues : Predictive [placeholder] [.symbol .rightParen] (expression nesting).commaSeparated.read :=
    Predictive.commaSeparated _ (expression_predictive (by simp [level?]) nesting) (by decide)
  (Predictive.symbol .leftParen _).bind fun _ => hvalues.bind fun row =>
    (Predictive.symbol .rightParen _).bind fun _ => .pure _ row

theorem readAssignment_predictive (nesting : Nat) :
    Predictive [placeholder] statementFollowers (readAssignment nesting) :=
  (Predictive.identifier .columnName _).bind fun column => (Predictive.symbol .equal _).bind fun _ =>
    (expression_predictive (by simp [statementFollowers, level?]) nesting).bind fun value =>
      .pure _ (Assignment.mk column value)

theorem readNullClause_predictive :
    Predictive [.symbol .rightParen] [.symbol .rightParen] readNullClause :=
  Predictive.keyword? ((Predictive.keyword .null _).bind fun _ => .pure _ NullClause.notNull)
    (Predictive.keyword? (.pure _ NullClause.null) (.pure _ NullClause.unspecified) (by decide)) (by decide)

theorem readColumnType_predictive (followers : List Token.Kind) :
    Predictive [placeholder] followers (Reader.expect isTypeWord .columnType) :=
  Predictive.expect rfl followers .columnType

theorem readColumnDefinition_predictive :
    Predictive [placeholder] [.symbol .rightParen] readColumnDefinition :=
  (Predictive.identifier .columnName _).bind fun name =>
    (readColumnType_predictive _).bind fun type =>
      readNullClause_predictive.bind fun clause => .pure _ (ColumnDefinition.mk name type clause)

theorem order?_predictive (nesting : Nat) :
    Predictive statementFollowers statementFollowers (order? nesting) :=
  Predictive.keyword?
    ((Predictive.keyword .by_ _).bind fun _ =>
      Predictive.commaSeparated ⟨readSortKey nesting, readSortKey_progresses nesting⟩
        (readSortKey_predictive nesting) (by decide))
    (.pure _ []) (by decide)

/-! ### Statements -/

theorem readSelect_predictive (nesting : Nat) :
    Predictive [placeholder] statementFollowers (readSelect nesting) :=
  (Predictive.commaSeparated ⟨readSelectItem nesting, readSelectItem_progresses nesting⟩
    (readSelectItem_predictive nesting) (by decide)).bind fun items =>
      (Predictive.keyword .from_ _).bind fun _ => (Predictive.identifier .tableName _).bind fun table =>
        (namedAs?_predictive .tableAlias (by decide)).bind fun tableAlias =>
          (condition?_predictive nesting).bind fun condition => (order?_predictive nesting).bind fun order =>
            .pure _ (Select.mk items table tableAlias condition order)

theorem readInsert_predictive (nesting : Nat) :
    Predictive [.keyword .into] statementFollowers (readInsert nesting) :=
  (Predictive.keyword .into _).bind fun _ => (Predictive.identifier .tableName _).bind fun table =>
    (Predictive.keyword .values _).bind fun _ =>
      (Predictive.commaSeparated ⟨readRow nesting, readRow_progresses nesting⟩
        (readRow_predictive nesting) (by decide)).bind fun rows => .pure _ (Insert.mk table rows)

theorem readUpdate_predictive (nesting : Nat) :
    Predictive [placeholder] statementFollowers (readUpdate nesting) :=
  (Predictive.identifier .tableName _).bind fun table => (Predictive.keyword .set _).bind fun _ =>
    (Predictive.commaSeparated ⟨readAssignment nesting, readAssignment_progresses nesting⟩
      (readAssignment_predictive nesting) (by decide)).bind fun assignments =>
        (condition?_predictive nesting).bind fun condition => .pure _ (Update.mk table assignments condition)

theorem readDelete_predictive (nesting : Nat) :
    Predictive [.keyword .from_] statementFollowers (readDelete nesting) :=
  (Predictive.keyword .from_ _).bind fun _ => (Predictive.identifier .tableName _).bind fun table =>
    (condition?_predictive nesting).bind fun condition => .pure _ (Delete.mk table condition)

theorem readCreateTable_predictive : Predictive [.keyword .table] statementFollowers readCreateTable :=
  (Predictive.keyword .table _).bind fun _ => (Predictive.identifier .tableName _).bind fun name =>
    (Predictive.symbol .leftParen _).bind fun _ =>
      (Predictive.commaSeparated ⟨readColumnDefinition, readColumnDefinition_progresses⟩
        readColumnDefinition_predictive (by decide)).bind fun columns =>
          (Predictive.symbol .rightParen _).bind fun _ => .pure _ (CreateTable.mk name columns)

theorem readDropTable_predictive : Predictive [.keyword .table] statementFollowers readDropTable :=
  (Predictive.keyword .table _).bind fun _ => (Predictive.identifier .tableName _).bind fun name =>
    .pure _ (DropTable.mk name)

theorem bodyOf?_predictive {nesting : Nat} {kind : Token.Kind} {body : Reader Statement}
    (hbody : bodyOf? nesting kind = some body) : ∃ heads, Predictive heads statementFollowers body := by
  unfold bodyOf? at hbody
  split at hbody
  case h_7 => simp at hbody
  all_goals obtain rfl := Option.some.inj hbody
  case h_1 => exact ⟨_, (readSelect_predictive nesting).map _⟩
  case h_2 => exact ⟨_, (readInsert_predictive nesting).map _⟩
  case h_3 => exact ⟨_, (readUpdate_predictive nesting).map _⟩
  case h_4 => exact ⟨_, (readDelete_predictive nesting).map _⟩
  case h_5 => exact ⟨_, readCreateTable_predictive.map _⟩
  case h_6 => exact ⟨_, readDropTable_predictive.map _⟩

theorem statement_predictive (nesting : Nat) :
    Predictive [.keyword .drop] statementFollowers (statement nesting).read := by
  refine Predictive.ofFirst rfl (fun t => ?_) (readDropTable_predictive.map Statement.drop)
    (statement_read_cons nesting (.ofKind (.keyword .drop)))
  have hread := statement_read_cons nesting t
  cases hbody : bodyOf? nesting t.kind with
  | none =>
    simp only [hbody] at hread
    exact .fails hread
  | some body =>
    simp only [hbody] at hread
    obtain ⟨heads, hpredictive⟩ := bodyOf?_predictive hbody
    exact .reads hpredictive hread

/-! ### Batches -/

section

variable {nesting : Nat} {s : Statement}

theorem failure_of_error (hne : tokens ≠ []) (h : (statement nesting).read tokens = .error f) :
    (readBatch nesting tokens).failure = some f := by
  obtain ⟨t, tail, rfl⟩ := List.exists_cons_of_ne_nil hne
  rw [readBatch_of_error h]

theorem failure_of_last (h : (statement nesting).read tokens = .ok (s, [])) :
    (readBatch nesting tokens).failure = none := by
  obtain ⟨t, tail, -, rfl, -⟩ := statement_read_eq_ok.1 h
  rw [readBatch_of_last h]

theorem failure_of_semicolon (h : (statement nesting).read tokens = .ok (s, t :: rest))
    (ht : t.kind = .symbol .semicolon) : (readBatch nesting tokens).failure = (readBatch nesting rest).failure := by
  obtain ⟨u, tail, -, rfl, -⟩ := statement_read_eq_ok.1 h
  rw [readBatch_of_semicolon h ht]

theorem failure_of_other (h : (statement nesting).read tokens = .ok (s, t :: rest))
    (ht : t.kind ≠ .symbol .semicolon) : (readBatch nesting tokens).failure = some ⟨.statementEnd, t :: rest⟩ := by
  obtain ⟨u, tail, -, rfl, -⟩ := statement_read_eq_ok.1 h
  rw [readBatch_of_other h ht]

/-- A batch fails in the same way whatever stands behind the offending token, and what stands before it is the
beginning of a batch. -/
theorem readBatch_fails (h : (readBatch nesting tokens).failure = some f) :
    ∃ taken, tokens = taken ++ f.rest ∧
      (∀ other, other.head? = f.rest.head? →
        (readBatch nesting (taken ++ other)).failure = some ⟨f.expected, other⟩) ∧
      ∃ more, (readBatch nesting (taken ++ more)).failure = none := by
  have hstatement := statement_predictive nesting
  fun_induction readBatch nesting tokens with
  | case1 => simp at h
  | case2 t tokens e he =>
    obtain rfl := Option.some.inj h
    obtain ⟨taken, htokens, hfails, more, s, hmore⟩ := hstatement.fails he
    have hmended : (statement nesting).read (taken ++ more) = .ok (s, []) := by
      rw [← List.append_nil (taken ++ more)]
      exact hmore [] (followedBy_nil _)
    refine ⟨taken, htokens, fun other hother => failure_of_error ?_ (hfails other hother), more,
      failure_of_last hmended⟩
    have hhead : (taken ++ other).head? = some t := by rw [head?_append_of_eq hother, ← htokens, List.head?_cons]
    exact List.ne_nil_of_mem (List.mem_of_head? hhead)
  | case3 => simp at h
  | case4 t tokens s u rest hs hu batch ih =>
    obtain ⟨first, hfirst, hreads, -⟩ := hstatement.reads hs
    obtain ⟨taken, rfl, hfails, more, hmore⟩ := ih h
    -- The first statement and its semicolon stay as they are; everything else happens behind them.
    have hbehind (other : List Token) :
        (readBatch nesting (first ++ u :: taken ++ other)).failure = (readBatch nesting (taken ++ other)).failure := by
      rw [List.append_assoc]
      exact failure_of_semicolon (hreads (u :: (taken ++ other)) (.inl rfl)) hu
    refine ⟨first ++ u :: taken, ?_, fun other hother => ?_, more, ?_⟩
    · rw [hfirst, List.append_assoc, List.cons_append]
    · rw [hbehind, hfails other hother]
    · rw [hbehind, hmore]
  | case5 t tokens s u rest hs hu =>
    obtain rfl := Option.some.inj h
    obtain ⟨first, hfirst, hreads, -⟩ := hstatement.reads hs
    refine ⟨first, hfirst, fun other hother => ?_, [], ?_⟩
    · obtain ⟨tail, rfl⟩ := List.head?_eq_some_iff.1 hother
      exact failure_of_other (hreads (u :: tail) (.inl rfl)) hu
    · exact failure_of_last (hreads [] (.inr (followedBy_nil _)))

end

end Parsing

open Parsing

/-- A text that cannot be parsed has a first impossible token, which the error points at: the tokens before it are the
beginning of a list that can be parsed, and no list that begins with these tokens and this one can be. Where there is
no such token, all tokens are the beginning of a list that can be parsed, and the error points at the last one. -/
theorem parse_error_at_first_impossible_token {source : String} {tokens : List Token} {e : ParseError}
    (hlex : lex source = .ok tokens) (hparse : parse source = .error e) :
    ∃ i ≤ tokens.length, (tokens[i]?.or tokens.getLast?).map (·.location) = some e.location ∧
      (∃ more statements, parseTokens (tokens.take i ++ more) = .ok statements) ∧
      (i < tokens.length → ∀ more statements, parseTokens (tokens.take (i + 1) ++ more) ≠ .ok statements) := by
  obtain ⟨f, hfailure, he⟩ : ∃ f, (readBatch nestingLimit tokens).failure = some f ∧ e = f.toParseError tokens := by
    rw [parse, hlex] at hparse
    exact parseTokens_eq_error.1 hparse
  obtain ⟨taken, htokens, hfails, more, hmore⟩ := readBatch_fails hfailure
  have hnext : tokens[taken.length]? = f.rest.head? := by
    rw [htokens, List.getElem?_append_right (Nat.le_refl _), Nat.sub_self, List.head?_eq_getElem?]
  have htake : tokens.take taken.length = taken := by rw [htokens, List.take_left]
  refine ⟨taken.length, by simp [htokens], ?_, ⟨more, _, parseTokens_eq_ok.2 ⟨rfl, by rw [htake, hmore]⟩⟩, ?_⟩
  · obtain ⟨last, hlast⟩ : ∃ last, tokens.getLast? = some last := by
      cases tokens with
      | nil => simp [readBatch] at hfailure
      | cons t tokens => exact ⟨_, List.getLast?_eq_some_getLast (List.cons_ne_nil t tokens)⟩
    rw [hnext, he, Failure.toParseError, hlast]
    cases f.rest.head? <;> rfl
  · intro hlt behind statements hok
    obtain ⟨t, ht⟩ : ∃ t, f.rest.head? = some t := ⟨_, hnext.symm.trans (List.getElem?_eq_getElem hlt)⟩
    have htakeSucc : tokens.take (taken.length + 1) = taken ++ [t] := by
      rw [List.take_add_one, htake, hnext, ht, Option.toList_some]
    have hsame : (readBatch nestingLimit (taken ++ t :: behind)).failure = some ⟨f.expected, t :: behind⟩ :=
      hfails (t :: behind) ht.symm
    rw [htakeSucc, List.append_assoc, List.singleton_append, parseTokens_eq_ok, hsame] at hok
    exact Option.some_ne_none _ hok.2

/-- The second statement lacks its column names, and the closing parenthesis is what cannot be. -/
theorem parse_error_at_first_impossible_token_of_missing_columns :
    ∃ tokens e, lex "DROP TABLE t; CREATE TABLE u ()" = .ok tokens ∧
      parse "DROP TABLE t; CREATE TABLE u ()" = .error e ∧ e.location = ⟨0, 30⟩ ∧
      ∃ i ≤ tokens.length, (tokens[i]?.or tokens.getLast?).map (·.location) = some e.location ∧
        (∃ more statements, parseTokens (tokens.take i ++ more) = .ok statements) ∧
        (i < tokens.length → ∀ more statements, parseTokens (tokens.take (i + 1) ++ more) ≠ .ok statements) := by
  have hlex : (lex "DROP TABLE t; CREATE TABLE u ()").isOk = true := by decide +kernel
  have hparse : (match parse "DROP TABLE t; CREATE TABLE u ()" with
      | .ok _ => none
      | .error e => some e.location) = some ⟨0, 30⟩ := by decide +kernel
  cases htokens : lex "DROP TABLE t; CREATE TABLE u ()" with
  | error e => simp [htokens, Except.isOk, Except.toBool] at hlex
  | ok tokens =>
    cases herror : parse "DROP TABLE t; CREATE TABLE u ()" with
    | ok statements => simp [herror] at hparse
    | error e =>
      have hlocation : e.location = ⟨0, 30⟩ := by simpa [herror] using hparse
      exact ⟨tokens, e, rfl, rfl, hlocation, parse_error_at_first_impossible_token htokens herror⟩

end SqlShell
