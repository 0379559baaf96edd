import TrafficRouter.Proofs.Http.Framing
import TrafficRouter.Proofs.Text.Utf8

/-!
# Which lines are request lines

The parser of the request line against its grammar: three words with one space between each two, in
UTF-8.

* `RequestLine.Valid`: the words are words (`IsWord`), so neither empty nor with a space in them;
* `parse?_eq_some_iff`: a line is parsed as the request that is written as that line and as no other;
* `parse?_isLogin_iff`: which lines name the login request;
* `MessageBuffer.requestLine_cases`: what of a buffer is parsed;
* `request_line_grammar`: all of it for any bytes.

NOT here: what the words mean. A method need not be known, and a control character is not a space.
-/

namespace TrafficRouter.Http

/-! ## 1. Words -/

/-- A text that is not empty and has no space, U+0020, in it. Any other character may be. -/
def IsWord (text : List Char) : Prop := text ≠ [] ∧ ' ' ∉ text

namespace RequestLine

/-- The three parts of the line are words. -/
structure Valid (line : RequestLine) : Prop where
  method : IsWord line.method.toList
  path : IsWord line.path.toList
  version : IsWord line.version.toList

/-- Three words between spaces are three pieces. -/
theorem Valid.splitOn {line : RequestLine} (h : line.Valid) :
    splitOn ' ' (line.method.toList ++ ' ' :: line.path.toList ++ ' ' :: line.version.toList) =
      [line.method.toList, line.path.toList, line.version.toList] := by
  rw [List.append_assoc, List.cons_append, splitOn_append_cons h.method.2,
    splitOn_append_cons h.path.2, splitOn_of_not_mem h.version.2]

/-- **Three pieces** are what stands before, between and behind the only two separators. -/
theorem eq_of_splitOn {text method path version : List Char}
    (h : TrafficRouter.splitOn ' ' text = [method, path, version]) :
    text = method ++ ' ' :: path ++ ' ' :: version ∧ ' ' ∉ method ∧ ' ' ∉ path ∧ ' ' ∉ version := by
  obtain ⟨rest, rfl, hmethod, hrest⟩ := splitOn_eq_cons_cons_iff.mp h
  obtain ⟨last, rfl, hpath, hlast⟩ := splitOn_eq_cons_cons_iff.mp hrest
  obtain ⟨rfl, hversion⟩ := splitOn_eq_singleton_iff.mp hlast
  exact ⟨by simp, hmethod, hpath, hversion⟩

/-! ## 2. The parser -/

section

variable {bytes : Bytes} {line : RequestLine}

/-- What is written is parsed as it was. -/
theorem parse?_print (h : line.Valid) : parse? line.print = some line := by
  have htext : Utf8.decode line.print = some _ := Utf8.decode_eq_some_iff.mpr rfl
  unfold parse?
  rw [htext]
  simp only [h.splitOn]
  simp [h.method.1, h.path.1, h.version.1]

/-- What is parsed is written as it was, and its parts are words. -/
theorem of_parse?_eq_some (h : parse? bytes = some line) : line.print = bytes ∧ line.Valid := by
  unfold parse? at h
  split at h
  · cases h
  · next text htext =>
    split at h
    · next method path version hpieces =>
      split at h
      · cases h
      · next hwords =>
        obtain rfl := Option.some.inj h
        obtain ⟨rfl, hmethod, hpath, hversion⟩ := eq_of_splitOn hpieces
        simp only [Bool.or_eq_true, List.isEmpty_iff, not_or] at hwords
        obtain ⟨⟨hmethod', hpath'⟩, hversion'⟩ := hwords
        refine ⟨?_, ?_, ?_, ?_⟩
        · rw [Utf8.decode_eq_some_iff.mp htext]
          simp [print]
        · exact String.toList_ofList ▸ ⟨hmethod', hmethod⟩
        · exact String.toList_ofList ▸ ⟨hpath', hpath⟩
        · exact String.toList_ofList ▸ ⟨hversion', hversion⟩
    · cases h

/-- **The lines that are parsed, and as what.** -/
theorem parse?_eq_some_iff : parse? bytes = some line ↔ line.print = bytes ∧ line.Valid := by
  constructor
  · exact of_parse?_eq_some
  · rintro ⟨rfl, h⟩
    exact parse?_print h

/-- A request is known by its line. -/
theorem print_injective {line' : RequestLine} (h : line.Valid) (h' : line'.Valid)
    (heq : line.print = line'.print) : line = line' := by
  have hparsed := parse?_print h
  rw [heq, parse?_print h'] at hparsed
  exact (Option.some.inj hparsed).symm

/-- What is not parsed is not the line of any request. -/
theorem parse?_eq_none_iff :
    parse? bytes = none ↔ ∀ line : RequestLine, line.Valid → line.print ≠ bytes := by
  constructor
  · intro hnone line hvalid hprint
    have hparsed := parse?_print hvalid
    rw [hprint, hnone] at hparsed
    cases hparsed
  · intro hall
    cases hparsed : parse? bytes with
    | none => rfl
    | some line =>
      obtain ⟨hprint, hvalid⟩ := of_parse?_eq_some hparsed
      exact absurd hprint (hall line hvalid)

/-! ## 3. The login request -/

theorem isLogin_iff : line.isLogin = true ↔ line.method = "POST" ∧ line.path = "/login.php" := by
  unfold isLogin
  rw [Bool.and_eq_true, beq_iff_eq, beq_iff_eq]

theorem print_login (version : String) :
    print ⟨"POST", "/login.php", version⟩ =
      Utf8.encode ("POST /login.php ".toList ++ version.toList) := by
  have htext : "POST /login.php ".toList = "POST".toList ++ ' ' :: "/login.php".toList ++ [' '] := by
    decide +kernel
  unfold print
  rw [htext]
  simp only [List.append_assoc, List.cons_append, List.nil_append]

/-- **The lines of the login request**: its method and path, and any version behind them. -/
theorem parse?_isLogin_iff :
    (∃ line, parse? bytes = some line ∧ line.isLogin = true) ↔
      ∃ version, IsWord version ∧ bytes = Utf8.encode ("POST /login.php ".toList ++ version) := by
  constructor
  · rintro ⟨⟨method, path, version⟩, hparsed, hlogin⟩
    obtain ⟨rfl, hvalid⟩ := of_parse?_eq_some hparsed
    obtain ⟨rfl, rfl⟩ := isLogin_iff.mp hlogin
    exact ⟨version.toList, hvalid.version, print_login version⟩
  · rintro ⟨version, hversion, rfl⟩
    obtain ⟨text, rfl⟩ : ∃ text : String, version = text.toList :=
      ⟨String.ofList version, String.toList_ofList.symm⟩
    have hmethod : IsWord "POST".toList := by
      unfold IsWord
      decide
    have hpath : IsWord "/login.php".toList := by
      unfold IsWord
      decide
    rw [← print_login]
    exact ⟨_, parse?_print ⟨hmethod, hpath, hversion⟩, isLogin_iff.mpr ⟨rfl, rfl⟩⟩

end

end RequestLine

/-! ## 4. The line of a buffer -/

/-- **What of a buffer is parsed**: what comes before its first line end, if it has one. -/
theorem MessageBuffer.requestLine_cases (b : MessageBuffer) :
    (¬ lineEnd <:+: b.bytes ∧ b.requestLine = none) ∨
      ∃ front rest, b.bytes = front ++ lineEnd ++ rest ∧ ¬ lineEnd <:+: front ∧
        b.requestLine = RequestLine.parse? front := by
  unfold requestLine
  cases hfind : find lineEnd b.bytes with
  | none =>
    refine Or.inl ⟨fun hinfix => ?_, rfl⟩
    obtain ⟨n, hn⟩ := find_isSome_of_infix (by decide) hinfix
    rw [hfind] at hn
    cases hn
  | some n =>
    obtain ⟨-, ⟨rest, hrest⟩, -⟩ := find_eq_some_iff.mp hfind
    refine Or.inr ⟨b.bytes.take n, rest, ?_, not_infix_take_of_find (by decide) hfind, rfl⟩
    rw [List.append_assoc, hrest, List.take_append_drop]

/-! ## 5. The grammar -/

open RequestLine in
/-- **Which lines are request lines.** For any bytes: they are parsed as a request exactly if its
parts are words and it is written as these bytes, so as at most one, and as none exactly if no such
request is written as them, in particular if they are not UTF-8. The request is the login request
exactly if the line is its method and path and a version of any kind. In a buffer, whatever it holds,
the line is what comes before the first line end. -/
theorem request_line_grammar (bytes : Bytes) :
    (∀ line, parse? bytes = some line ↔ line.print = bytes ∧ line.Valid) ∧
    (∀ line line' : RequestLine, line.print = bytes ∧ line.Valid →
      line'.print = bytes ∧ line'.Valid → line = line') ∧
    (parse? bytes = none ↔ ∀ line : RequestLine, line.Valid → line.print ≠ bytes) ∧
    ((∀ text, Utf8.encode text ≠ bytes) → parse? bytes = none) ∧
    ((∃ line, parse? bytes = some line ∧ line.isLogin = true) ↔
      ∃ version, IsWord version ∧ bytes = Utf8.encode ("POST /login.php ".toList ++ version)) ∧
    ∀ limit headerEnd, let b : MessageBuffer := ⟨limit, bytes, headerEnd⟩
      (¬ lineEnd <:+: bytes ∧ b.requestLine = none) ∨
        ∃ front rest, bytes = front ++ lineEnd ++ rest ∧ ¬ lineEnd <:+: front ∧
          b.requestLine = parse? front := by
  refine ⟨fun line => parse?_eq_some_iff, ?_, parse?_eq_none_iff, ?_, parse?_isLogin_iff, ?_⟩
  · rintro line line' ⟨hprint, hvalid⟩ ⟨hprint', hvalid'⟩
    exact print_injective hvalid hvalid' (hprint.trans hprint'.symm)
  · intro hutf8
    exact parse?_eq_none_iff.mpr fun line _ => hutf8 _
  · intro limit headerEnd
    exact MessageBuffer.requestLine_cases ⟨limit, bytes, headerEnd⟩

end TrafficRouter.Http
