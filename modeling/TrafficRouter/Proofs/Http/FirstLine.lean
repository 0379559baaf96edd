import TrafficRouter.Proofs.Http.ContentLength
import TrafficRouter.Proofs.Http.Edits

/-!
# Where the first line ends

A request is routed by what stands before its first line end, a carriage return and a line feed. What
its header block declares is looked for behind its first line feed. A request line may hold line feeds
of its own, and then the two differ: a part of the line that is routed is read as a header line.

* `lineLength?_concat_return`, `lengthIn?_concat_return`: a carriage return at the end of a line is
  taken off or is white space;
* `lengthIn?_append_line`: what a text declares is what its front does, or else what comes behind;
* `head_cases`, `find_terminator_replaced`: a head is its first line or goes on with a line end, and
  with another line in front it ends as much later;
* `headContentLength_behind_line`: what the first line declares decides, and else the header lines;
* `length_behind_request_line`: both for a buffer that is filled and cut, against the request with
  another first line;
* `length_within_request_line`: two requests that differ in their first lines alone.

NOT here: what is routed (`Proofs.Gateway.Admission`).
-/

namespace TrafficRouter.Http

/-! ## 1. Carriage returns -/

/-- A carriage return behind a value is white space. -/
theorem declaredLength_concat_return (value : Bytes) :
    declaredLength (value ++ [13]) = declaredLength value := by
  have hreturn : Text.Blank [Char.ofNat 13] := by decide
  have htext : Text.trim (Utf8.decodeLossy (value ++ [13])) =
      Text.trim (Utf8.decodeLossy value) := by
    rw [Utf8.decodeLossy_concat value (by decide)]
    exact Text.trim_append_blank _ hreturn
  unfold declaredLength
  rw [htext]

theorem declaredLength_dropReturn (value : Bytes) :
    declaredLength (dropReturn value) = declaredLength value := by
  rcases dropReturn_cases value with h | h
  · rw [h]
  · rw [h, dropReturn_concat, declaredLength_concat_return]

/-- **A carriage return behind a line changes nothing.** -/
theorem lineLength?_concat_return (line : Bytes) :
    lineLength? (line ++ [13]) = lineLength? line := by
  by_cases h : ∃ raw, NamesLength line raw
  · obtain ⟨raw, hnames⟩ := h
    have hreturn : NamesLength (line ++ [13]) (raw ++ [13]) := by
      obtain ⟨name, rfl, hcolon, hname⟩ := hnames
      exact ⟨name, by simp, hcolon, hname⟩
    rw [hnames.lineLength, hreturn.lineLength, dropReturn_concat, declaredLength_dropReturn]
  · have hnone : lineLength? line = none :=
      lineLength?_eq_none_iff.mpr fun raw hraw => h ⟨raw, hraw⟩
    rw [hnone, lineLength?_eq_none_iff]
    rintro raw ⟨name, hline, hcolon, hname⟩
    -- behind the colon stands at least the carriage return, since it is no colon itself
    rcases List.eq_nil_or_concat raw with rfl | ⟨front, b, rfl⟩
    · have hlast := congrArg List.getLast? hline
      simp at hlast
    · rw [List.concat_eq_append] at hline
      have hsplit : line ++ [13] = (name ++ 58 :: front) ++ [b] := by simpa using hline
      obtain ⟨hfront, -⟩ := List.append_inj' hsplit rfl
      exact h ⟨front, name, hfront, hcolon, hname⟩

/-- The last line feed of a text that holds one. -/
theorem exists_last_feed {text : Bytes} (h : 10 ∈ text) :
    ∃ front back, text = front ++ 10 :: back ∧ 10 ∉ back := by
  obtain ⟨back, front, hsplit, hback⟩ := List.eq_append_cons_of_mem (List.mem_reverse.mpr h)
  refine ⟨front.reverse, back.reverse, ?_, fun hmem => hback (List.mem_reverse.mp hmem)⟩
  have := congrArg List.reverse hsplit
  simpa using this

/-- What a text declares is what comes before one of its line feeds does, or else what comes behind. -/
theorem lengthIn?_append_feed (front back : Bytes) :
    lengthIn? (front ++ 10 :: back) =
      (lengthIn? front).or ((back.splitOn 10).findSome? lineLength?) := by
  unfold lengthIn?
  rw [List.splitOn_append_cons_self, List.tail_append_of_ne_nil (List.splitOn_ne_nil 10 front),
    List.findSome?_append]

/-- A text of one line declares nothing. -/
theorem lengthIn?_eq_none {text : Bytes} (h : 10 ∉ text) : lengthIn? text = none := by
  unfold lengthIn?
  rw [List.splitOn_eq_singleton h]
  rfl

theorem headContentLength_of_line {text : Bytes} (h : 10 ∉ text) :
    headContentLength text = .ok none := by
  rw [headContentLength_eq, lengthIn?_eq_none h]

/-- **A carriage return behind a text changes nothing.** -/
theorem lengthIn?_concat_return (text : Bytes) : lengthIn? (text ++ [13]) = lengthIn? text := by
  by_cases h : 10 ∈ text
  · obtain ⟨front, back, rfl, hback⟩ := exists_last_feed h
    have hreturn : 10 ∉ back ++ [13] := by simp [hback]
    rw [List.append_assoc, List.cons_append, lengthIn?_append_feed, lengthIn?_append_feed,
      List.splitOn_eq_singleton hback, List.splitOn_eq_singleton hreturn,
      List.findSome?_singleton, List.findSome?_singleton, lineLength?_concat_return]
  · have hreturn : 10 ∉ text ++ [13] := by simp [h]
    rw [lengthIn?_eq_none h, lengthIn?_eq_none hreturn]

/-- **What a text declares** is what its front does, or else what comes behind the line end. -/
theorem lengthIn?_append_line (front rest : Bytes) :
    lengthIn? (front ++ 13 :: 10 :: rest) =
      (lengthIn? front).or ((rest.splitOn 10).findSome? lineLength?) := by
  have hline : front ++ 13 :: 10 :: rest = (front ++ [13]) ++ 10 :: rest := by simp
  rw [hline, lengthIn?_append_feed, lengthIn?_concat_return]

/-! ## 2. The first line and the head -/

section

variable {bytes : Bytes} {e n : Nat}

/-- At the first line end stands what is behind the first line. -/
theorem drop_of_find_lineEnd (hn : find lineEnd bytes = some n) :
    ∃ rest, bytes.drop n = 13 :: 10 :: rest := by
  obtain ⟨-, ⟨rest, hrest⟩, -⟩ := find_eq_some_iff.mp hn
  exact ⟨rest, hrest.symm⟩

/-- The first line ends where the head does or before. -/
theorem firstLine_le (he : find headerTerminator bytes = some e)
    (hn : find lineEnd bytes = some n) : n ≤ e := by
  obtain ⟨-, hterminator, -⟩ := find_eq_some_iff.mp he
  obtain ⟨-, -, hfirst⟩ := find_eq_some_iff.mp hn
  refine Nat.le_of_not_lt fun hlt => hfirst e hlt ?_
  exact (List.prefix_append lineEnd lineEnd).trans hterminator

/-- **A head is its first line**, or that line, a line end and the header lines. -/
theorem head_cases (he : find headerTerminator bytes = some e)
    (hn : find lineEnd bytes = some n) :
    (bytes.drop n).take (e - n) = [] ∨
      ∃ lines, (bytes.drop n).take (e - n) = 13 :: 10 :: lines := by
  obtain ⟨rest, hrest⟩ := drop_of_find_lineEnd hn
  obtain ⟨-, ⟨body, hbody⟩, -⟩ := find_eq_some_iff.mp he
  have hle := firstLine_le he hn
  rw [hrest]
  match hk : e - n with
  | 0 => exact Or.inl rfl
  | 1 =>
    -- the terminator would begin at the line feed of the line end
    have hfeed : bytes.drop e = 10 :: rest := by
      rw [show e = n + 1 by omega, ← List.drop_drop, hrest]
      rfl
    rw [hfeed] at hbody
    exact absurd (List.cons.inj hbody).1 (by decide)
  | k + 2 => exact Or.inr ⟨rest.take k, rfl⟩

/-- In front of a line end there is no terminator that begins in a line without line feeds. -/
theorem not_terminator_in_line {first rest : Bytes} (hfirst : 10 ∉ first) {i : Nat}
    (hi : i < first.length) : ¬ headerTerminator <+: (first ++ 13 :: rest).drop i := by
  rintro ⟨body, hbody⟩
  have hfeed : (first ++ 13 :: rest)[i + 1]? = some 10 := by
    rw [← List.getElem?_drop, ← hbody]
    rfl
  by_cases hlast : i + 1 < first.length
  · rw [List.getElem?_append_left hlast] at hfeed
    exact hfirst (List.mem_of_getElem? hfeed)
  · rw [List.getElem?_append_right (by omega), show i + 1 - first.length = 0 by omega] at hfeed
    simp at hfeed

/-- **With another line in front** the head ends as much later as that line is longer. -/
theorem find_terminator_replaced {first : Bytes} (hfirst : 10 ∉ first)
    (he : find headerTerminator bytes = some e) (hn : find lineEnd bytes = some n) :
    find headerTerminator (first ++ bytes.drop n) = some (first.length + (e - n)) := by
  have hle := firstLine_le he hn
  have hbehind : find headerTerminator (bytes.drop n) = some (e - n) := by
    obtain ⟨-, -, hleast⟩ := find_eq_some_iff.mp he
    have hfront : ∀ i < n, ¬ headerTerminator <+: bytes.drop i :=
      fun i hi => hleast i (by omega)
    rw [find_eq_find_drop hfront] at he
    obtain ⟨m, hm, hsum⟩ := Option.map_eq_some_iff.mp he
    rw [hm]
    congr 1
    omega
  have hline : ∀ i < first.length, ¬ headerTerminator <+: (first ++ bytes.drop n).drop i := by
    obtain ⟨rest, hrest⟩ := drop_of_find_lineEnd hn
    rw [hrest]
    exact fun i hi => not_terminator_in_line hfirst hi
  rw [find_eq_find_drop hline, List.drop_left, hbehind]
  rfl

/-- **What a head declares** is what its first line does, or else what its header lines do. -/
theorem headContentLength_behind_line (he : find headerTerminator bytes = some e)
    (hn : find lineEnd bytes = some n) {first : Bytes} (hfirst : 10 ∉ first) :
    headContentLength (bytes.take e) =
      match headContentLength (bytes.take n) with
      | .ok none => headContentLength (first ++ (bytes.drop n).take (e - n))
      | declared => declared := by
  have hhead : bytes.take e = bytes.take n ++ (bytes.drop n).take (e - n) := by
    rw [← List.take_add, Nat.add_sub_of_le (firstLine_le he hn)]
  have hlength : lengthIn? (bytes.take e) =
      (lengthIn? (bytes.take n)).or (lengthIn? (first ++ (bytes.drop n).take (e - n))) := by
    rw [hhead]
    rcases head_cases he hn with hnil | ⟨lines, hlines⟩
    · rw [hnil, List.append_nil, List.append_nil, lengthIn?_eq_none hfirst, Option.or_none]
    · rw [hlines, lengthIn?_append_line, lengthIn?_append_line, lengthIn?_eq_none hfirst,
        Option.none_or]
  rw [headContentLength_eq, headContentLength_eq, headContentLength_eq, hlength]
  match lengthIn? (bytes.take n) with
  | none => rfl
  | some (.ok n) => rfl
  | some (.error error) => rfl

end

/-! ## 3. Requests that differ in their first lines -/

namespace MessageBuffer

/-- **What a request declares, by its first line.** For every limit and every buffer that is filled
and cut at will, but not below its head, with a whole head of which the first line ends at `n`: the
request that has another first line in its place, without a line feed of its own, has the same body
behind a head that is as much longer. If the first line that was replaced declares nothing behind a
line feed of its own, in particular if it holds no line feed, both declare the same length. Otherwise
what is read as a header line within the first line decides. -/
theorem length_behind_request_line (limit : Nat) (edits : List BufferEdit)
    (h : SparesHead { limit } edits) :
    let b := ({ limit } : MessageBuffer).edited edits
    ∀ e n, b.headerEnd = some e → find lineEnd b.bytes = some n →
      ∀ first limit' b', 10 ∉ first → ofInitial limit' (first ++ b.bytes.drop n) = .ok b' →
        b'.headerEnd = some (first.length + (e - n)) ∧ b'.body = b.body ∧
          (10 ∉ b.bytes.take n → b.contentLength = b'.contentLength) ∧
          b.contentLength =
            match headContentLength (b.bytes.take n) with
            | .ok none => b'.contentLength
            | declared => declared := by
  intro b e n he hn first limit' b' hfirst hb'
  have hempty : (whole limit []).SparesHead edits := h
  obtain ⟨hb, -⟩ := edited_whole (Nat.zero_le limit) hempty
  generalize edits.foldl (BufferEdit.apply limit) [] = bytes at hb
  have hwhole : b = whole limit bytes := hb
  clear_value b
  subst hwhole
  have hhead : find headerTerminator bytes = some e := he
  have hline : find lineEnd bytes = some n := hn
  have hreplaced := find_terminator_replaced hfirst hhead hline
  obtain rfl : whole limit' (first ++ bytes.drop n) = b' := by
    rw [ofInitial_eq] at hb'
    split at hb'
    · cases hb'
    · exact Except.ok.inj hb'
  have hlength : (whole limit bytes).contentLength = headContentLength (bytes.take e) := by
    unfold contentLength head whole
    rw [hhead]
    rfl
  have hlength' : (whole limit' (first ++ bytes.drop n)).contentLength =
      headContentLength (first ++ (bytes.drop n).take (e - n)) := by
    unfold contentLength head whole
    rw [hreplaced, ← List.take_length_add_append]
    rfl
  have hdecided := headContentLength_behind_line hhead hline hfirst
  rw [← hlength, ← hlength'] at hdecided
  refine ⟨hreplaced, ?_, fun hnofeed => ?_, hdecided⟩
  · unfold body bodyStart whole
    simp only [hreplaced, hhead, Option.map_some]
    rw [Nat.add_assoc, List.drop_length_add_append, List.drop_drop]
    congr 1
    have hle := firstLine_le hhead hline
    omega
  · have hnone : headContentLength (bytes.take n) = .ok none := headContentLength_of_line hnofeed
    rw [hnone] at hdecided
    exact hdecided

/-- The line of the one request that is forwarded. -/
def loginLine : Bytes := ascii "POST /login.php HTTP/1.1".toList

/-- A request that comes in two pieces, with a line feed in its first line that changes nothing. -/
theorem length_behind_request_line_login :
    let pieces := ["PUT /a\nb HTTP/1.1\r\nContent-", "Length: 3\r\n\r\nabc"].map
      fun piece => ascii piece.toList
    let b := ({ limit := 64 } : MessageBuffer).edited (pieces.map .extend)
    let replaced := loginLine ++ b.bytes.drop 17
    b.requestLine = some ⟨"PUT", "/a\nb", "HTTP/1.1"⟩ ∧
      ofInitial 64 replaced = .ok (whole 64 replaced) ∧
      (whole 64 replaced).headerEnd = some 43 ∧ b.contentLength = .ok (some 3) ∧
      b.contentLength = (whole 64 replaced).contentLength := by
  intro pieces b replaced
  have hrequest : b.requestLine = some ⟨"PUT", "/a\nb", "HTTP/1.1"⟩ := by decide +kernel
  have hspares : SparesHead { limit := 64 } (pieces.map .extend) := by decide +kernel
  have hhead : b.headerEnd = some 36 := by decide +kernel
  have hline : find lineEnd b.bytes = some 17 := by decide +kernel
  have hreplaced : ofInitial 64 replaced = .ok (whole 64 replaced) := by decide +kernel
  have hlength : b.contentLength = .ok (some 3) := by decide +kernel
  have hnone : headContentLength (b.bytes.take 17) = .ok none := by decide +kernel
  obtain ⟨hterminator, -, -, hdecided⟩ := length_behind_request_line 64 (pieces.map .extend) hspares
    36 17 hhead hline loginLine 64 _ (by decide +kernel) hreplaced
  refine ⟨hrequest, hreplaced, hterminator, hlength, hdecided.trans ?_⟩
  show (match headContentLength (b.bytes.take 17) with
    | .ok none => (whole 64 replaced).contentLength
    | declared => declared) = _
  rw [hnone]

/-- A request whose line holds a line feed, and behind that what could be a header line. -/
def lengthInLine : Bytes := ascii "POST /login.php HTTP/1.1\nContent-Length:5\r\n\r\n".toList

/-- **Two requests that differ in their first lines alone** and are both forwarded: the one waits for
a body of five bytes, which a part of the line that it is routed by declares, the other has no
declared length. -/
theorem length_within_request_line :
    let b := whole 1024 lengthInLine
    let b' := whole 1024 (loginLine ++ lengthInLine.drop 41)
    ofInitial 1024 lengthInLine = .ok b ∧ find lineEnd lengthInLine = some 41 ∧
      ofInitial 1024 (loginLine ++ lengthInLine.drop 41) = .ok b' ∧
      b.requestLine = some ⟨"POST", "/login.php", "HTTP/1.1\nContent-Length:5"⟩ ∧
      b'.requestLine = some ⟨"POST", "/login.php", "HTTP/1.1"⟩ ∧
      b.framing = .ok (.awaitingBody 5) ∧ b.contentLength = .ok (some 5) ∧
      b'.contentLength = .ok none := by
  decide +kernel

end MessageBuffer

end TrafficRouter.Http
