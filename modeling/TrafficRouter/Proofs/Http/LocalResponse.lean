import TrafficRouter.Http.Response
import TrafficRouter.Proofs.Http.FirstLine

/-!
# The answers that are written here

An answer of this program against the readers of this program.

* `LocalResponse.WellFormed`: a status of 16 bits, a reason on one line, and a body whose length is a
  word. The body may be any text;
* `toBytes_eq`: the message as its lines and its body;
* `find_terminator_behind_line`, `find_terminator_at_end`: a head ends where its last line does;
* `WellFormed.declares`: what the head declares is the length of the body, which is the rest of the
  message;
* `WellFormed.statusCode`: the status is read as it was written.

NOT here: the pieces in which a message comes (`Proofs.Gateway.ReadBack`).
-/

namespace TrafficRouter.Http

/-! ## 1. Where a head of lines ends -/

section

variable {line : Bytes}

/-- **Behind a line** the terminator is where it is in what follows, unless that is an empty line. -/
theorem find_terminator_behind_line {rest : Bytes} (hline : 10 ∉ line)
    (hrest : rest.head? ≠ some 13) :
    find headerTerminator (line ++ 13 :: 10 :: rest) =
      (find headerTerminator rest).map (line.length + 2 + ·) := by
  have hnone : ∀ i < line.length + 2, ¬ headerTerminator <+: (line ++ 13 :: 10 :: rest).drop i := by
    intro i hi
    by_cases hin : i < line.length
    · exact not_terminator_in_line hline hin
    · have hdrop : (line ++ 13 :: 10 :: rest).drop i = (13 :: 10 :: rest).drop (i - line.length) := by
        rw [List.drop_append, List.drop_of_length_le (Nat.le_of_not_lt hin), List.nil_append]
      rintro ⟨body, hbody⟩
      rw [hdrop] at hbody
      match hk : i - line.length with
      | 0 =>
        rw [hk] at hbody
        have hthird : lineEnd ++ body = rest := (List.cons.inj (List.cons.inj hbody).2).2
        rw [← hthird] at hrest
        exact hrest rfl
      | 1 =>
        rw [hk] at hbody
        exact absurd (List.cons.inj hbody).1 (by decide)
      | k + 2 => omega
  rw [find_eq_find_drop hnone]
  have hdrop : (line ++ 13 :: 10 :: rest).drop (line.length + 2) = rest := by
    rw [List.drop_length_add_append]
    rfl
  rw [hdrop]

/-- **At the end of the last line** the terminator begins. -/
theorem find_terminator_at_end (hline : 10 ∉ line) (body : Bytes) :
    find headerTerminator (line ++ headerTerminator ++ body) = some line.length := by
  refine find_eq_some_iff.mpr ⟨?_, ?_, fun i hi => ?_⟩
  · rw [List.length_append, List.length_append, length_headerTerminator]
    omega
  · rw [List.append_assoc, List.drop_left]
    exact List.prefix_append _ _
  · rw [List.append_assoc]
    exact not_terminator_in_line hline hi

end

/-! ## 2. The lines of an answer -/

namespace LocalResponse

/-- The first line. -/
def statusLine (r : LocalResponse) : List Char :=
  "HTTP/1.1".toList ++ ' ' :: ((toString r.status).toList ++ ' ' :: r.reason.toList)

def typeLine : Bytes := ascii "Content-Type: text/plain".toList

/-- The line that declares a length. -/
def lengthLine (n : Nat) : Bytes :=
  ascii "Content-Length".toList ++ 58 :: Utf8.encode (' ' :: (toString n).toList)

def closeLine : Bytes := ascii "Connection: close".toList

/-- The bytes of the body. -/
def bodyBytes (r : LocalResponse) : Bytes := Utf8.encode r.body.toList

/-- The lines of the head but the first. -/
def headerBlock (r : LocalResponse) : Bytes :=
  typeLine ++ 13 :: 10 :: (lengthLine r.bodyBytes.length ++ 13 :: 10 :: closeLine)

/-- **The message as its lines and its body.** -/
theorem toBytes_eq (r : LocalResponse) :
    r.toBytes = Utf8.encode r.statusLine ++ 13 :: 10 :: r.headerBlock ++ headerTerminator
      ++ r.bodyBytes := by
  have hversion : Utf8.encode "HTTP/1.1 ".toList = Utf8.encode "HTTP/1.1".toList ++ [32] := by
    decide +kernel
  have htype : Utf8.encode "\r\nContent-Type: text/plain\r\nContent-Length: ".toList =
      13 :: 10 :: typeLine ++ 13 :: 10 :: ascii "Content-Length".toList ++ [58, 32] := by
    decide +kernel
  have hclose : Utf8.encode "\r\nConnection: close\r\n\r\n".toList =
      13 :: 10 :: closeLine ++ headerTerminator := by
    decide +kernel
  have hspace : Utf8.encode " ".toList = [32] := by decide +kernel
  have hcons : ∀ text, Utf8.encode (' ' :: text) = 32 :: Utf8.encode text := fun _ => rfl
  unfold toBytes statusLine headerBlock lengthLine bodyBytes
  simp only [String.toList_append, Utf8.encode_append, hversion, htype, hclose, hspace, hcons,
    List.append_assoc, List.cons_append, List.nil_append]

/-! ## 3. An answer that can be read -/

/-- **An answer that is read as it was meant**: the status has 16 bits, the reason is on one line,
and the length of the body is a word. -/
structure WellFormed (r : LocalResponse) : Prop where
  status : r.status ≤ Numeral.maxWord16
  noReturn : '\r' ∉ r.reason.toList
  noFeed : '\n' ∉ r.reason.toList
  body : r.bodyBytes.length ≤ Numeral.maxWord64

section

variable {r : LocalResponse}

/-- What is neither in the version, a digit nor a space is in the first line only if it is in the
reason. -/
theorem not_mem_statusLine {c : Char} (hversion : c ∉ "HTTP/1.1".toList) (hspace : c ≠ ' ')
    (hdigit : ¬ c.isDigit) (hreason : c ∉ r.reason.toList) : c ∉ r.statusLine := by
  have hstatus := (Numeral.decimal_toString r.status).not_mem hdigit
  unfold statusLine
  simp only [List.mem_append, List.mem_cons, not_or]
  exact ⟨hversion, hspace, hstatus, hspace, hreason⟩

theorem WellFormed.statusLine_no_return (h : r.WellFormed) : 13 ∉ Utf8.encode r.statusLine := by
  have hreturn : '\r' ∉ r.statusLine :=
    not_mem_statusLine (by decide) (by decide) (by decide) h.noReturn
  exact Utf8.not_mem_encode (by decide) hreturn

theorem WellFormed.statusLine_no_feed (h : r.WellFormed) : 10 ∉ Utf8.encode r.statusLine := by
  have hfeed : '\n' ∉ r.statusLine :=
    not_mem_statusLine (by decide) (by decide) (by decide) h.noFeed
  exact Utf8.not_mem_encode (by decide) hfeed

theorem lengthLine_no_feed (n : Nat) : 10 ∉ lengthLine n := by
  have hname : 10 ∉ ascii "Content-Length".toList := by decide +kernel
  have hdigits : '\n' ∉ (toString n).toList := (Numeral.decimal_toString n).not_mem (by decide)
  have hvalue : 10 ∉ Utf8.encode (' ' :: (toString n).toList) := by
    have hchars : '\n' ∉ ' ' :: (toString n).toList :=
      List.not_mem_cons_of_ne_of_not_mem (by decide) hdigits
    exact Utf8.not_mem_encode (by decide) hchars
  unfold lengthLine
  simp only [List.mem_append, List.mem_cons, not_or]
  exact ⟨hname, by decide, hvalue⟩

/-- The line declares the number that is written in it. -/
theorem lineLength?_lengthLine {n : Nat} (h : n ≤ Numeral.maxWord64) :
    lineLength? (lengthLine n) = some (.ok n) := by
  have hnames : NamesLength (lengthLine n) (Utf8.encode (' ' :: (toString n).toList)) :=
    ⟨_, rfl, by decide +kernel, by decide +kernel⟩
  have htext : LengthText (Utf8.encode (' ' :: (toString n).toList)) n :=
    ⟨h, [' '], [], _, [], by decide, by decide, Or.inl rfl, Numeral.decimal_toString n, by simp⟩
  rw [hnames.lineLength, declaredLength_dropReturn, declaredLength_eq_ok_iff.mpr htext]

/-- **What the head declares** is the length of the body. -/
theorem WellFormed.headContentLength (h : r.WellFormed) :
    headContentLength (Utf8.encode r.statusLine ++ 13 :: 10 :: r.headerBlock) =
      .ok (some r.bodyBytes.length) := by
  have htype : (typeLine.splitOn 10).findSome? lineLength? = none := by decide +kernel
  have hlength : ((lengthLine r.bodyBytes.length).splitOn 10).findSome? lineLength? =
      some (.ok r.bodyBytes.length) := by
    rw [List.splitOn_eq_singleton (lengthLine_no_feed _), List.findSome?_singleton,
      lineLength?_lengthLine h.body]
  have hhead : Utf8.encode r.statusLine ++ 13 :: 10 :: r.headerBlock =
      (Utf8.encode r.statusLine ++ 13 :: 10 :: typeLine ++ 13 :: 10 :: lengthLine r.bodyBytes.length)
        ++ 13 :: 10 :: closeLine := by
    simp [headerBlock]
  rw [headContentLength_eq, hhead, lengthIn?_append_line, lengthIn?_append_line,
    lengthIn?_append_line, lengthIn?_eq_none h.statusLine_no_feed, htype, hlength]
  rfl

/-- Where the head ends. -/
theorem WellFormed.find_terminator (h : r.WellFormed) :
    find headerTerminator r.toBytes =
      some (Utf8.encode r.statusLine ++ 13 :: 10 :: r.headerBlock).length := by
  have hsplit : r.toBytes = Utf8.encode r.statusLine ++ 13 :: 10 :: (typeLine ++ 13 :: 10 ::
      (lengthLine r.bodyBytes.length ++ 13 :: 10 ::
        (closeLine ++ headerTerminator ++ r.bodyBytes))) := by
    rw [toBytes_eq]
    simp [headerBlock]
  have htype : (typeLine ++ 13 :: 10 :: (lengthLine r.bodyBytes.length ++ 13 :: 10 ::
      (closeLine ++ headerTerminator ++ r.bodyBytes))).head? ≠ some 13 := by
    rw [List.head?_append_of_ne_nil _ (by decide +kernel)]
    decide +kernel
  have hlength : (lengthLine r.bodyBytes.length ++ 13 :: 10 ::
      (closeLine ++ headerTerminator ++ r.bodyBytes)).head? ≠ some 13 := by
    unfold lengthLine
    rw [List.append_assoc, List.head?_append_of_ne_nil _ (by decide +kernel)]
    decide +kernel
  have hclose : (closeLine ++ headerTerminator ++ r.bodyBytes).head? ≠ some 13 := by
    rw [List.append_assoc, List.head?_append_of_ne_nil _ (by decide +kernel)]
    decide +kernel
  rw [hsplit, find_terminator_behind_line h.statusLine_no_feed htype,
    find_terminator_behind_line (by decide +kernel) hlength,
    find_terminator_behind_line (lengthLine_no_feed _) hclose,
    find_terminator_at_end (by decide +kernel)]
  unfold headerBlock
  simp only [Option.map_some, Option.some.injEq, List.length_append, List.length_cons]
  omega

/-- **An answer declares its body**, which is all that comes behind the head. -/
theorem WellFormed.declares (h : r.WellFormed) :
    ∃ start, Declares r.toBytes start r.bodyBytes.length ∧
      r.toBytes.length = start + r.bodyBytes.length ∧ r.toBytes.drop start = r.bodyBytes := by
  have hbytes := toBytes_eq r
  generalize hhead : Utf8.encode r.statusLine ++ 13 :: 10 :: r.headerBlock = head at hbytes
  refine ⟨_, ⟨head.length, hhead ▸ h.find_terminator, rfl, ?_⟩, ?_, ?_⟩
  · rw [hbytes, List.append_assoc, List.take_left, ← hhead]
    exact h.headContentLength
  · rw [hbytes, List.length_append, List.length_append]
  · rw [hbytes, ← List.length_append, List.drop_left]

/-- **The status is read as it was written.** -/
theorem WellFormed.statusCode (h : r.WellFormed) (more : Bytes) :
    statusCode? (r.toBytes ++ more) = some r.status := by
  obtain ⟨rest, hrest⟩ : ∃ rest, r.toBytes ++ more = Utf8.encode r.statusLine ++ 13 :: rest := by
    rw [toBytes_eq]
    simp
  have hline : (Utf8.encode r.statusLine ++ 13 :: rest).takeWhile (· != 13) =
      Utf8.encode r.statusLine := by
    have hall : ∀ b ∈ Utf8.encode r.statusLine, (b != 13) = true := fun b hb =>
      bne_iff_ne.mpr fun e => h.statusLine_no_return (e ▸ hb)
    rw [List.takeWhile_append_of_pos hall, List.takeWhile_cons_of_neg (by simp), List.append_nil]
  have hcontains : (Utf8.encode r.statusLine ++ 13 :: rest).contains 13 = true := by simp
  have hdigits : ' ' ∉ (toString r.status).toList :=
    (Numeral.decimal_toString r.status).not_mem (by decide)
  have hwords : (splitOn ' ' r.statusLine)[1]? = some (toString r.status).toList := by
    unfold statusLine
    rw [splitOn_append_cons (by decide), splitOn_append_cons hdigits]
    rfl
  unfold statusCode?
  rw [hrest, if_pos hcontains, hline, Utf8.decode_eq_some_iff.mpr rfl]
  show (splitOn ' ' r.statusLine)[1]?.bind _ = _
  rw [hwords]
  exact Numeral.unsigned?_toString h.status

end

end LocalResponse

end TrafficRouter.Http
