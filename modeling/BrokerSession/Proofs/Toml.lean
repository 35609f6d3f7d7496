import BrokerSession.Toml.Printer
import BrokerSession.Toml.Scalar

/-!
# Written texts read back

A text is written in the plainest of four forms that can hold it. Whatever the form, the reader of a document gets back
the text that was written, so that two texts are never written alike.

## Main definitions

* `Toml.escaped` - the escaped form of a text, character by character

## Main results

* `Toml.string_renderText` - a written text reads back
* `Toml.renderText_injective` - no two texts are written alike
* `Toml.render_of_nested` - a text in a table stands in the document as it is written, between what does not depend on
  it
-/

namespace BrokerSession.Toml

/-! ## Escapes -/

/-- The escaped form of a text behind a run of quotes that stand as they are. -/
def escaped (long : Bool) (run : Nat) : List Char → List Char
  | [] => []
  | c :: rest =>
    if c = '"' then
      if run < (if long then maxQuotes else 0) then '"' :: escaped long (run + 1) rest
      else '\\' :: '"' :: escaped long 0 rest
    else escapeChar long c ++ escaped long 0 rest

theorem escapeAll_eq (long : Bool) (run : Nat) (acc cs : List Char) :
    escapeAll long run acc cs = acc.reverse ++ escaped long run cs := by
  induction cs generalizing run acc with
  | nil => simp [escapeAll, escaped]
  | cons c rest ih =>
    simp only [escapeAll, escaped, ih]
    by_cases quote : c = '"'
    · by_cases room : run < if long then maxQuotes else 0 <;> simp [quote, room]
    · simp [quote]

/-- No character gets lost. -/
theorem length_le_escaped (long : Bool) (run : Nat) (cs : List Char) : cs.length ≤ (escaped long run cs).length := by
  induction cs generalizing run with
  | nil => exact Nat.zero_le _
  | cons c cs ih =>
    have written : escapeChar long c ≠ [] := by
      unfold escapeChar
      grind
    have kept := List.length_pos_iff.mpr written
    by_cases quote : c = '"'
    · rw [escaped, if_pos quote]
      by_cases room : run < if long then maxQuotes else 0
      · rw [if_pos room]
        exact Nat.succ_le_succ (ih (run + 1))
      · rw [if_neg room]
        exact Nat.le_succ_of_le (Nat.succ_le_succ (ih 0))
    · rw [escaped, if_neg quote, List.length_append, List.length_cons]
      have := ih 0
      omega

/-- The code point of a character with a small number reads back. -/
theorem codePoint_fourDigits (c : Char) (small : c.toNat < 128) (tail : List Char) :
    codePoint 4 (fourDigits c.toNat ++ tail) = some (c, tail) := by
  have value (n : Nat) : Hex.value? (Hex.digit (n % 16)).toUpper = some (n % 16) :=
    Hex.value?_toUpper_digit (Nat.mod_lt _ (by decide))
  have number : 16 * (16 * (16 * (16 * 0 + c.toNat / 4096 % 16) + c.toNat / 256 % 16) + c.toNat / 16 % 16) +
      c.toNat % 16 = c.toNat := by omega
  have valid : c.toNat.isValidChar := c.valid
  simp only [codePoint, fourDigits, List.map_cons, List.map_nil, List.cons_append, List.nil_append, List.take_succ_cons,
    List.take_zero, List.mapM_cons, List.mapM_nil, value, Option.pure_def, Option.bind_eq_bind, Option.bind_some,
    List.length_cons, List.length_nil, List.foldl_cons, List.foldl_nil, number, valid, List.drop_succ_cons,
    List.drop_zero, if_true, Char.ofNat_toNat]
  rfl

theorem isPlain_of_not_needsEscape {c : Char} (plain : needsEscape c = false) (line : c ≠ '\n') : isPlain c = true := by
  simp only [needsEscape, Bool.or_eq_false_iff, Bool.and_eq_false_iff, decide_eq_false_iff_not, bne_eq_false_iff_eq,
    beq_eq_false_iff_ne] at plain
  simp only [isPlain, Bool.or_eq_true, Bool.and_eq_true, decide_eq_true_eq, bne_iff_ne, beq_iff_eq]
  by_cases tab : c = '\t'
  · exact .inl tab
  · have high : ¬ c.toNat ≤ 0x1f := (plain.1.resolve_right line).resolve_right tab
    exact .inr ⟨by omega, plain.2⟩

theorem toNat_lt_of_needsEscape {c : Char} (needs : needsEscape c = true) : c.toNat < 128 := by
  simp only [needsEscape, Bool.or_eq_true, Bool.and_eq_true, decide_eq_true_eq, beq_iff_eq] at needs
  omega

/-- The ways in which a character other than a quote is written: as it is, or behind a backslash. -/
theorem escapeChar_cases (long : Bool) {c : Char} (other : c ≠ '"') :
    (escapeChar long c = [c] ∧ c ≠ '\\' ∧ c ≠ '\r' ∧ (c = '\n' ∧ long = true ∨ c ≠ '\n' ∧ isPlain c = true)) ∨
      ∃ code, escapeChar long c = '\\' :: code ∧ (∀ tail, newline? (skipGap (code ++ tail)) = none) ∧
        ∀ tail, escape (code ++ tail) = some (c, tail) := by
  -- The branches of the definition in their order; what each of them excludes is kept for the last one.
  unfold escapeChar
  split
  · rename_i same
    exact .inr ⟨['b'], rfl, fun _ => rfl, fun _ => by rw [same]; rfl⟩
  split
  · rename_i same
    exact .inr ⟨['t'], rfl, fun _ => rfl, fun _ => by rw [same]; rfl⟩
  split
  · rename_i same
    cases long with
    | false => exact .inr ⟨['n'], rfl, fun _ => rfl, fun _ => by rw [same]; rfl⟩
    | true => exact .inl (by subst same; decide)
  rename_i line
  split
  · rename_i same
    exact .inr ⟨['f'], rfl, fun _ => rfl, fun _ => by rw [same]; rfl⟩
  split
  · rename_i same
    exact .inr ⟨['r'], rfl, fun _ => rfl, fun _ => by rw [same]; rfl⟩
  rename_i feed
  split
  · rename_i same
    exact .inr ⟨['\\'], rfl, fun _ => rfl, fun _ => by rw [same]; rfl⟩
  rename_i slash
  split
  · rename_i needs
    exact .inr ⟨'u' :: fourDigits c.toNat, rfl, fun _ => rfl, codePoint_fourDigits c (toNat_lt_of_needsEscape needs)⟩
  · rename_i plain
    exact .inl ⟨rfl, slash, feed, .inr ⟨line, isPlain_of_not_needsEscape (by simpa using plain) line⟩⟩

/-! ## Strings on one line -/

theorem basicBody_plain {n : Nat} {acc rest : List Char} {c : Char} (quote : c ≠ '"') (slash : c ≠ '\\')
    (plain : isPlain c = true) : basicBody (n + 1) acc (c :: rest) = basicBody n (c :: acc) rest := by
  simp [basicBody, plain]

theorem basicBody_escape {n : Nat} {acc rest code : List Char} {c : Char} (reads : escape code = some (c, rest)) :
    basicBody (n + 1) acc ('\\' :: code) = basicBody n (c :: acc) rest := by
  simp [basicBody, reads]

/-- A text on one line with escapes reads back. -/
theorem basicBody_escaped (n : Nat) (acc cs rest : List Char) (run : Nat) (enough : cs.length < n) :
    basicBody n acc (escaped false run cs ++ '"' :: rest) = some (String.ofList (acc.reverse ++ cs), rest) := by
  induction cs generalizing n acc run with
  | nil =>
    obtain ⟨n, rfl⟩ := Nat.exists_eq_add_one_of_ne_zero (Nat.ne_of_gt enough)
    simp [escaped, basicBody, collected]
  | cons c cs ih =>
    obtain ⟨n, rfl⟩ := Nat.exists_eq_add_one_of_ne_zero (Nat.ne_of_gt (Nat.zero_lt_of_lt enough))
    have next : basicBody n (c :: acc) (escaped false 0 cs ++ '"' :: rest) =
        some (String.ofList (acc.reverse ++ c :: cs), rest) := by
      rw [ih n (c :: acc) 0 (by simpa using enough), List.reverse_cons, List.append_assoc, List.singleton_append]
    by_cases quote : c = '"'
    · rw [← next, quote]
      simp only [escaped, if_true, Bool.false_eq_true, if_false, Nat.not_lt_zero, List.cons_append]
      exact basicBody_escape rfl
    · rw [← next, escaped, if_neg quote]
      rcases escapeChar_cases false quote with ⟨same, slash, -, ⟨-, long⟩ | ⟨-, plain⟩⟩ | ⟨code, same, -, reads⟩
      · cases long
      · rw [same]
        exact basicBody_plain quote slash plain
      · rw [same, List.append_assoc, List.cons_append]
        exact basicBody_escape (reads _)

/-- A text on one line without escapes reads back. -/
theorem literalBody_append (acc cs rest : List Char) (plain : ∀ c ∈ cs, c ≠ '\'' ∧ isPlain c = true) :
    literalBody acc (cs ++ '\'' :: rest) = some (String.ofList (acc.reverse ++ cs), rest) := by
  induction cs generalizing acc with
  | nil => simp [literalBody, collected]
  | cons c cs ih =>
    obtain ⟨quote, fine⟩ := plain c List.mem_cons_self
    have next := ih (c :: acc) fun d among => plain d (List.mem_cons_of_mem _ among)
    rw [List.reverse_cons, List.append_assoc, List.singleton_append] at next
    rw [← next, List.cons_append]
    simp [literalBody, fine]

/-! ## Strings on several lines -/

section

variable {quote : Char} {escapes : Bool} {n k : Nat} {acc rest : List Char} {c : Char}

theorem longBody_plain (other : c ≠ quote) (slash : escapes = true → c ≠ '\\') (feed : c ≠ '\r')
    (fine : c = '\n' ∨ isPlain c = true) :
    longBody quote escapes (n + 1) acc (c :: rest) = longBody quote escapes n (c :: acc) rest := by
  by_cases line : c = '\n'
  · subst line
    simp [longBody]
  · have same : (escapes && c == '\\') = false := by cases escapes <;> simp_all
    simp [longBody, feed, other, same, fine.resolve_left line]

theorem longBody_escape {code : List Char} (other : quote ≠ '\\') (here : newline? (skipGap code) = none)
    (reads : escape code = some (c, rest)) :
    longBody quote true (n + 1) acc ('\\' :: code) = longBody quote true n (c :: acc) rest := by
  simp [longBody, other.symm, here, reads]

theorem takeWhile_quotes (ends : rest.head? ≠ some quote) :
    (List.replicate k quote ++ rest).takeWhile (· == quote) = List.replicate k quote := by
  rw [List.takeWhile_append_of_pos (by simp)]
  cases rest with
  | nil => simp
  | cons d rest => simp_all

/-- A string of several lines at a quote: the whole run of quotes is looked at. -/
theorem longBody_run (escapes : Bool) (n k : Nat) (acc rest : List Char) (line : quote ≠ '\n') (feed : quote ≠ '\r')
    (ends : rest.head? ≠ some quote) :
    longBody quote escapes (n + 1) acc (List.replicate (k + 1) quote ++ rest) =
      match QuoteRun.ofLength (k + 1) with
      | .inside j =>
        longBody quote escapes n (List.replicate j quote ++ acc) ((List.replicate (k + 1) quote ++ rest).drop j)
      | .closing j =>
        some (collected (List.replicate j quote ++ acc), (List.replicate (k + 1) quote ++ rest).drop (j + 3)) := by
  have run := congrArg List.length (takeWhile_quotes (k := k + 1) ends)
  rw [List.length_replicate] at run
  rw [List.replicate_succ, List.cons_append] at run ⊢
  simp only [longBody, run]
  split
  · simp_all
  · simp_all
  · simp_all
  · rename_i same
    obtain ⟨rfl, rfl⟩ := List.cons.inj same
    exact if_pos rfl

/-- A run of fewer than three quotes is part of the string. -/
theorem longBody_quotes (line : quote ≠ '\n') (feed : quote ≠ '\r') (few : k < 2) (ends : rest.head? ≠ some quote) :
    longBody quote escapes (n + 1) acc (List.replicate (k + 1) quote ++ rest) =
      longBody quote escapes n (List.replicate (k + 1) quote ++ acc) rest := by
  have inside : QuoteRun.ofLength (k + 1) = .inside (k + 1) := if_pos (by omega)
  rw [longBody_run _ _ _ _ _ line feed ends, inside]
  simp

/-- Up to two quotes may stand before those that close a string. -/
theorem longBody_close (line : quote ≠ '\n') (feed : quote ≠ '\r') (few : k < 3) :
    longBody quote escapes (n + 1) acc (List.replicate (k + 3) quote) =
      some (String.ofList (acc.reverse ++ List.replicate k quote), []) := by
  have closing : QuoteRun.ofLength (k + 2 + 1) = .closing k := by
    rw [QuoteRun.ofLength, if_neg (by omega), Nat.min_eq_left (by omega)]
    rfl
  have closed := longBody_run escapes n (k + 2) acc [] line feed nofun
  rw [closing, List.append_nil] at closed
  rw [closed]
  simp [collected]

/-- Quotes that have not been looked at become part of the string when something else follows. -/
theorem longBody_pending (escapes : Bool) (n : Nat) (acc : List Char) (line : quote ≠ '\n') (feed : quote ≠ '\r')
    (few : k < 3) (enough : k < n) (ends : rest.head? ≠ some quote) :
    ∃ m, n ≤ m + k ∧
      longBody quote escapes n acc (List.replicate k quote ++ rest) =
        longBody quote escapes m (List.replicate k quote ++ acc) rest := by
  cases k with
  | zero => exact ⟨n, Nat.le_refl n, rfl⟩
  | succ k =>
    obtain ⟨n, rfl⟩ := Nat.exists_eq_add_one_of_ne_zero (Nat.ne_of_gt (Nat.zero_lt_of_lt enough))
    exact ⟨n, by omega, longBody_quotes line feed (by omega) ends⟩

end

/-- Behind as many quotes as may stand as they are, a text does not go on with one. -/
theorem head?_escaped_append {long : Bool} {run : Nat} {cs : List Char}
    (full : (if long then maxQuotes else 0) ≤ run ∨ cs.head? ≠ some '"') (goesOn : cs ≠ []) (tail : List Char) :
    (escaped long run cs ++ tail).head? ≠ some '"' := by
  obtain ⟨c, rest, rfl⟩ := List.exists_cons_of_ne_nil goesOn
  by_cases quote : c = '"'
  · have stops := full.resolve_right (by simp [quote])
    simp [escaped, quote, Nat.not_lt.mpr stops]
  · rw [escaped, if_neg quote]
    rcases escapeChar_cases long quote with ⟨same, -⟩ | ⟨code, same, -⟩
    · simpa [same] using quote
    · simp [same]

/-- What has been read once a character has been read behind some quotes. -/
theorem reverse_behind_quotes (quote c : Char) (k : Nat) (acc cs : List Char) :
    (c :: (List.replicate k quote ++ acc)).reverse ++ cs = acc.reverse ++ List.replicate k quote ++ c :: cs := by
  simp

/-- A text on several lines with escapes reads back, with the quotes before it that have not been looked at. -/
theorem longBody_escaped (n : Nat) (acc cs : List Char) (run : Nat) (few : run ≤ maxQuotes)
    (enough : run + cs.length < n) :
    longBody '"' true n acc (List.replicate run '"' ++ (escaped true run cs ++ List.replicate 3 '"')) =
      some (String.ofList (acc.reverse ++ List.replicate run '"' ++ cs), []) := by
  induction cs generalizing n acc run with
  | nil =>
    obtain ⟨n, rfl⟩ := Nat.exists_eq_add_one_of_ne_zero (Nat.ne_of_gt (Nat.zero_lt_of_lt enough))
    rw [escaped, List.nil_append, List.replicate_append_replicate, List.append_nil]
    exact longBody_close (by decide) (by decide) (Nat.lt_succ_of_le few)
  | cons c cs ih =>
    rw [List.length_cons] at enough
    by_cases more : c = '"' ∧ run < maxQuotes
    · -- One more quote stands as it is.
      obtain ⟨rfl, room⟩ := more
      have next := ih n acc (run + 1) room (by omega)
      rw [List.replicate_succ', List.append_assoc, List.append_assoc, List.append_assoc] at next
      rw [escaped, if_pos rfl, if_pos (by simpa using room), List.append_assoc]
      exact next
    · -- The quotes before it become part of the string, and then the character is read.
      have full : (if true then maxQuotes else 0) ≤ run ∨ (c :: cs).head? ≠ some '"' := by
        by_cases quote : c = '"'
        · exact .inl (Nat.not_lt.mp fun room => more ⟨quote, room⟩)
        · exact .inr (by simpa using quote)
      obtain ⟨m, fuel, looked⟩ :=
        longBody_pending true n acc (by decide) (by decide) (Nat.lt_succ_of_le few) (by omega)
          (head?_escaped_append full (List.cons_ne_nil c cs) (List.replicate 3 '"'))
      rw [looked]
      have narrow : run < 3 := Nat.lt_succ_of_le few
      obtain ⟨m, rfl⟩ := Nat.exists_eq_add_one_of_ne_zero (show m ≠ 0 by omega)
      have next := ih m (c :: (List.replicate run '"' ++ acc)) 0 (by decide) (by omega)
      rw [List.replicate_zero, List.nil_append, List.append_nil, reverse_behind_quotes] at next
      rw [← next]
      by_cases quote : c = '"'
      · have stops : maxQuotes ≤ run := full.resolve_right (by simp [quote])
        subst quote
        rw [escaped, if_pos rfl, if_neg (by simpa using stops)]
        exact longBody_escape (by decide) rfl rfl
      · rw [escaped, if_neg quote, List.append_assoc]
        rcases escapeChar_cases true quote with ⟨same, slash, feed, fine⟩ | ⟨code, same, here, reads⟩
        · rw [same]
          exact longBody_plain quote (fun _ => slash) feed (fine.imp And.left And.right)
        · rw [same, List.cons_append]
          exact longBody_escape (by decide) (here _) (reads _)

/-- The longest run of a character in a text, or before it: the longest so far, and the one that goes on. -/
def longestFrom (quote : Char) (best run : Nat) (cs : List Char) : Nat :=
  (cs.foldl (fun (best, run) d => if d = quote then (max best (run + 1), run + 1) else (best, 0)) (best, run)).1

theorem longestFrom_cons (quote : Char) (best run : Nat) (c : Char) (cs : List Char) :
    longestFrom quote best run (c :: cs) =
      if c = quote then longestFrom quote (max best (run + 1)) (run + 1) cs else longestFrom quote best 0 cs := by
  by_cases same : c = quote <;> simp [longestFrom, same]

theorem le_longestFrom (quote : Char) (best run : Nat) (cs : List Char) : best ≤ longestFrom quote best run cs := by
  induction cs generalizing best run with
  | nil => exact Nat.le_refl best
  | cons c cs ih =>
    rw [longestFrom_cons]
    split
    · exact Nat.le_trans (Nat.le_max_left ..) (ih ..)
    · exact ih ..

/-- A text on several lines without escapes reads back, with the quotes before it that have not been looked at. -/
theorem longBody_literal (n best run : Nat) (acc cs : List Char) (few : run ≤ maxQuotes)
    (enough : run + cs.length < n) (fits : longestFrom '\'' best run cs ≤ maxQuotes)
    (plain : ∀ c ∈ cs, c = '\n' ∨ isPlain c = true) :
    longBody '\'' false n acc (List.replicate run '\'' ++ (cs ++ List.replicate 3 '\'')) =
      some (String.ofList (acc.reverse ++ List.replicate run '\'' ++ cs), []) := by
  induction cs generalizing n acc run best with
  | nil =>
    obtain ⟨n, rfl⟩ := Nat.exists_eq_add_one_of_ne_zero (Nat.ne_of_gt (Nat.zero_lt_of_lt enough))
    rw [List.nil_append, List.replicate_append_replicate, List.append_nil]
    exact longBody_close (by decide) (by decide) (Nat.lt_succ_of_le few)
  | cons c cs ih =>
    rw [List.length_cons] at enough
    rw [longestFrom_cons] at fits
    have rest : ∀ d ∈ cs, d = '\n' ∨ isPlain d = true := fun d among => plain d (List.mem_cons_of_mem _ among)
    by_cases quote : c = '\''
    · -- No run of quotes is too long, so this one only goes on.
      rw [if_pos quote] at fits
      have room : run + 1 ≤ maxQuotes :=
        Nat.le_trans (Nat.le_max_right best (run + 1)) (Nat.le_trans (le_longestFrom ..) fits)
      have next := ih n _ (run + 1) acc room (by omega) fits rest
      rw [List.replicate_succ', List.append_assoc, ← List.append_assoc acc.reverse, List.append_assoc] at next
      rw [quote]
      exact next
    · rw [if_neg quote] at fits
      obtain ⟨m, fuel, looked⟩ :=
        longBody_pending false n acc (by decide) (by decide) (Nat.lt_succ_of_le few) (by omega)
          (show (c :: cs ++ List.replicate 3 '\'').head? ≠ some '\'' by simpa using quote)
      rw [looked]
      have narrow : run < 3 := Nat.lt_succ_of_le few
      obtain ⟨m, rfl⟩ := Nat.exists_eq_add_one_of_ne_zero (show m ≠ 0 by omega)
      have next := ih m _ 0 (c :: (List.replicate run '\'' ++ acc)) (by decide) (by omega) fits rest
      rw [List.replicate_zero, List.nil_append, List.append_nil, reverse_behind_quotes] at next
      rw [← next, List.cons_append]
      have fine := plain c List.mem_cons_self
      have feed : c ≠ '\r' := by
        rintro rfl
        revert fine
        decide
      exact longBody_plain quote nofun feed fine

/-! ## Forms -/

/-- A text is written as it is on one line only without quotes and special characters, and on several lines only without
long runs of quotes. -/
theorem Form.plain_of_eq {cs : List Char} :
    (Form.of cs = .literal → ∀ c ∈ cs, c ≠ '\'' ∧ isPlain c = true) ∧
      (Form.of cs = .longLiteral → longestFrom '\'' 0 0 cs ≤ maxQuotes ∧ ∀ c ∈ cs, c = '\n' ∨ isPlain c = true) := by
  have plain (none : cs.any needsEscape = false) (c : Char) (among : c ∈ cs) : c = '\n' ∨ isPlain c = true := by
    by_cases line : c = '\n'
    · exact .inl line
    · exact .inr (isPlain_of_not_needsEscape (by simpa using List.any_eq_false.mp none c among) line)
  constructor
  · intro literal c among
    by_cases second : (!cs.any needsEscape && !cs.contains '\n' && !cs.contains '\'') = true
    · simp only [Bool.and_eq_true, Bool.not_eq_true', List.contains_eq_mem, decide_eq_false_iff_not] at second
      obtain ⟨⟨none, line⟩, quote⟩ := second
      have other : c ≠ '\n' := fun same => line (same ▸ among)
      exact ⟨fun same => quote (same ▸ among), (plain none c among).resolve_left other⟩
    · exfalso
      simp only [Form.of, second] at literal
      grind
  · intro long
    by_cases fourth : (!cs.any needsEscape && decide (longestRun '\'' cs ≤ maxQuotes)) = true
    · simp only [Bool.and_eq_true, Bool.not_eq_true', decide_eq_true_eq] at fourth
      exact ⟨fourth.2, plain fourth.1⟩
    · exfalso
      simp only [Form.of, fourth] at long
      grind

/-- Only a text that has an end of line is written with one at its beginning. -/
theorem newline?_escaped {cs : List Char} (single : '\n' ∉ cs) :
    newline? (escaped true 0 cs ++ List.replicate 3 '"') = none := by
  cases cs with
  | nil => rfl
  | cons c cs =>
    by_cases quote : c = '"'
    · subst quote
      rfl
    · rw [escaped, if_neg quote]
      rcases escapeChar_cases true quote with ⟨same, -, feed, -⟩ | ⟨code, same, -⟩
      · have line : c ≠ '\n' := fun same => single (same ▸ List.mem_cons_self)
        rw [same]
        simp [newline?, feed, line]
      · rw [same]
        rfl

/-- A string that does not begin with three quotes is one of one line. -/
theorem string_of_head? {rest : List Char} :
    (rest.head? ≠ some '"' ∨ rest = ['"'] → string ('"' :: rest) = basicString rest) ∧
      (rest.head? ≠ some '\'' ∨ rest = ['\''] → string ('\'' :: rest) = literalString rest) := by
  constructor
  · rintro (other | rfl)
    · cases rest with
      | nil => rfl
      | cons c rest =>
        have quote : c ≠ '"' := by simpa using other
        simp [string, quote]
    · rfl
  · rintro (other | rfl)
    · cases rest with
      | nil => rfl
      | cons c rest =>
        have quote : c ≠ '\'' := by simpa using other
        simp [string, quote]
    · rfl

theorem toList_renderAs (cs : List Char) :
    (renderAs .basic cs).toList = '"' :: (escaped false 0 cs ++ ['"']) ∧
      (renderAs .literal cs).toList = '\'' :: (cs ++ ['\'']) ∧
      (renderAs .longBasic cs).toList = List.replicate 3 '"' ++
        ((if '\n' ∈ cs then ['\n'] else []) ++ (escaped true 0 cs ++ List.replicate 3 '"')) ∧
      (renderAs .longLiteral cs).toList = List.replicate 3 '\'' ++
        ((if '\n' ∈ cs then ['\n'] else []) ++ (cs ++ List.replicate 3 '\'')) := by
  have body (quotes body : String) (start : Bool) :
      (quotes ++ (if start then "\n" else "") ++ body ++ quotes).toList =
        quotes.toList ++ ((if start then ['\n'] else []) ++ (body.toList ++ quotes.toList)) := by
    cases start <;> simp
  refine ⟨?_, ?_, ?_, ?_⟩
  · refine (body "\"" _ false).trans ?_
    simp [escapeAll_eq]
  · refine (body "'" _ false).trans ?_
    simp
  · refine (body "\"\"\"" _ (cs.contains '\n')).trans ?_
    simp [escapeAll_eq]
  · refine (body "'''" _ (cs.contains '\n')).trans ?_
    simp

/-- The end of line that a string of several lines may begin with is no part of it. -/
theorem longString_start (quote : Char) (escapes : Bool) {cs tail : List Char}
    (single : '\n' ∉ cs → newline? tail = none) :
    ∃ n, tail.length < n ∧
      longString quote escapes ((if '\n' ∈ cs then ['\n'] else []) ++ tail) = longBody quote escapes n [] tail := by
  by_cases line : '\n' ∈ cs
  · refine ⟨tail.length + 2, by omega, ?_⟩
    rw [if_pos line]
    rfl
  · refine ⟨tail.length + 1, by simp, ?_⟩
    rw [if_neg line, List.nil_append, longString, single line]
    rfl

/-- A written text reads back. -/
theorem string_renderText (s : String) : string (renderText s).toList = some (s, []) := by
  obtain ⟨cs, rfl⟩ : ∃ cs, String.ofList cs = s := ⟨s.toList, String.ofList_toList⟩
  rw [renderText, String.toList_ofList]
  obtain ⟨literal, longLiteral⟩ := @Form.plain_of_eq cs
  -- One case for each of the four forms, and each comes down to reading the body of that form.
  cases form : Form.of cs with
  | basic =>
    have single : (escaped false 0 cs ++ ['"']).head? ≠ some '"' ∨ escaped false 0 cs ++ ['"'] = ['"'] := by
      by_cases empty : cs = []
      · exact .inr (by simp [empty, escaped])
      · exact .inl (head?_escaped_append (.inl (Nat.le_refl 0)) empty _)
    rw [(toList_renderAs cs).1, string_of_head?.1 single]
    refine basicBody_escaped _ [] cs [] 0 ?_
    have := length_le_escaped false 0 cs
    simp only [List.length_append]
    omega
  | literal =>
    have plain := literal form
    have single : (cs ++ ['\'']).head? ≠ some '\'' ∨ cs ++ ['\''] = ['\''] := by
      cases cs with
      | nil => exact .inr rfl
      | cons c cs => exact .inl (by simpa using (plain c List.mem_cons_self).1)
    rw [(toList_renderAs cs).2.1, string_of_head?.2 single]
    exact literalBody_append [] cs [] plain
  | longBasic =>
    obtain ⟨n, enough, reads⟩ := longString_start '"' true (@newline?_escaped cs)
    rw [(toList_renderAs cs).2.2.1]
    refine reads.trans (longBody_escaped n [] cs 0 (by decide) ?_)
    have := length_le_escaped true 0 cs
    simp only [List.length_append] at enough
    omega
  | longLiteral =>
    obtain ⟨fits, plain⟩ := longLiteral form
    have single (line : '\n' ∉ cs) : newline? (cs ++ List.replicate 3 '\'') = none := by
      cases cs with
      | nil => rfl
      | cons c cs =>
        have fine := plain c List.mem_cons_self
        have other : c ≠ '\n' := fun same => line (same ▸ List.mem_cons_self)
        have feed : c ≠ '\r' := by
          rintro rfl
          revert fine
          decide
        simp [newline?, other, feed]
    obtain ⟨n, enough, reads⟩ := longString_start '\'' false single
    rw [(toList_renderAs cs).2.2.2]
    refine reads.trans (longBody_literal n 0 0 [] cs (by decide) ?_ fits plain)
    simp only [List.length_append] at enough
    omega

/-- No two texts are written alike. -/
theorem renderText_injective {s t : String} (same : renderText s = renderText t) : s = t := by
  have reads := string_renderText s
  rw [same, string_renderText t] at reads
  exact (congrArg Prod.fst (Option.some.inj reads)).symm

/-! ## Documents -/

theorem renderPlain_append (xs ys : List (String × Datum)) :
    renderPlain (xs ++ ys) = renderPlain xs ++ renderPlain ys := by
  induction xs with
  | nil => rfl
  | cons x xs ih =>
    obtain ⟨key, d⟩ := x
    cases d <;> simp [renderPlain, ih]

theorem renderTables_append (path : List String) (xs ys : List (String × Datum)) :
    renderTables path (xs ++ ys) = renderTables path xs ++ renderTables path ys := by
  induction xs with
  | nil => simp [renderTables]
  | cons x xs ih => simp [renderTables, ih]

/-- A text in a table of a document stands there as it is written, between what does not depend on it. -/
theorem render_of_nested (early late fields : List (String × Datum)) (name key : String)
    (begun : renderPlain early ≠ []) :
    ∃ before behind : String, ∀ s : String,
      render (early ++ (name, .table (fields ++ [(key, .text s)])) :: late) = before ++ renderText s ++ behind := by
  let header : List String := ["", "[" ++ ".".intercalate ([name].map renderKey) ++ "]"]
  let above : List String :=
    renderPlain early ++ renderPlain late ++ renderTables [] early ++ header ++ renderPlain fields
  let below : List String := renderTables [name] fields ++ renderTables [] late
  -- The text is on one line, and the lines above and below it do not depend on it.
  have lines (s : String) : renderLines (early ++ (name, .table (fields ++ [(key, .text s)])) :: late) =
      above ++ (renderKey key ++ " = " ++ renderText s) :: below := by
    have inside : renderPlain (fields ++ [(key, .text s)]) =
        renderPlain fields ++ [renderKey key ++ " = " ++ renderText s] := by
      rw [renderPlain_append]
      rfl
    have headed : renderHeader [name] (fields ++ [(key, .text s)])
        (renderPlain fields ++ [renderKey key ++ " = " ++ renderText s]) = header := by
      rw [renderHeader, if_neg (by simp)]
    have plain : renderPlain (early ++ (name, .table (fields ++ [(key, .text s)])) :: late) =
        renderPlain early ++ renderPlain late := by
      rw [renderPlain_append]
      rfl
    have filled : (renderPlain early ++ renderPlain late).isEmpty = false := by simp [begun]
    simp only [renderLines, plain, filled, Bool.false_eq_true, if_false, renderTables_append, renderTables, renderTable,
      List.nil_append, headed, inside, List.append_nil]
    simp [above, below]
  refine ⟨String.join (above.map (· ++ "\n")) ++ renderKey key ++ " = ",
    "\n" ++ String.join (below.map (· ++ "\n")), fun s => ?_⟩
  rw [render, lines, List.map_append, List.map_cons, String.join_append, String.join_cons]
  simp only [String.append_assoc]

end BrokerSession.Toml
