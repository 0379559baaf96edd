import Mathlib.Data.List.TakeDrop
import TrafficRouter.Routing

/-!
# What the first bytes say

The classifier of connections, against bytes that are cut and bytes that go on.

* `classify_eq_http_iff`, `classify_eq_indeterminate_iff`: what is taken for a request, and what
  decides nothing;
* `classify_take`: a request that is cut, by whether its method token is still there;
* `Settled`, `settled_iff`: what is taken for the same whatever comes behind it;
* `classify_raised`: what a greater threshold changes.

NOT here: how many bytes a session reads first (`Proofs.Server.Recognition`).
-/

namespace TrafficRouter

/-! ## 1. Method tokens and length headers -/

/-- No method token begins another. -/
theorem token_eq_of_prefix {token token' : Bytes} (h : token ∈ methodTokens)
    (h' : token' ∈ methodTokens) (hp : token' <+: token) : token' = token := by
  have hall : ∀ t ∈ methodTokens, ∀ t' ∈ methodTokens, t'.isPrefixOf t = true → t' = t := by decide
  exact hall token h token' h' (List.isPrefixOf_iff_prefix.mpr hp)

/-- A method token has its length header, and eight bytes at most. -/
theorem token_length {token : Bytes} (h : token ∈ methodTokens) :
    (lengthHeader token).isSome = true ∧ token.length ≤ 8 := by
  have hall : ∀ t ∈ methodTokens, (lengthHeader t).isSome = true ∧ t.length ≤ 8 := by decide
  exact hall token h

theorem lengthHeader_append {bytes : Bytes} {length : Nat} (h : lengthHeader bytes = some length)
    (rest : Bytes) : lengthHeader (bytes ++ rest) = some length := by
  match bytes, h with
  | _ :: _ :: _, h => exact h

theorem isHttpRequest_iff {bytes : Bytes} :
    isHttpRequest bytes = true ↔ ∃ token ∈ methodTokens, token <+: bytes := by
  unfold isHttpRequest
  simp only [List.any_eq_true, List.isPrefixOf_iff_prefix]

theorem lengthHeader_eq_none_iff {bytes : Bytes} :
    lengthHeader bytes = none ↔ bytes.length < 2 := by
  match bytes with
  | [] | [_] => simp [lengthHeader]
  | _ :: _ :: _ => simp [lengthHeader]

/-- **What is taken for a request** begins with a method token. -/
theorem classify_eq_http_iff {threshold : Nat} {bytes : Bytes} :
    classify threshold bytes = .http ↔ isHttpRequest bytes = true := by
  unfold classify
  by_cases h : isHttpRequest bytes = true
  · simp [h]
  · rw [if_neg h]
    refine iff_of_false ?_ h
    split
    · exact Protocol.noConfusion
    · split <;> exact Protocol.noConfusion

/-- **What decides nothing** is shorter than a length header. -/
theorem classify_eq_indeterminate_iff {threshold : Nat} {bytes : Bytes} :
    classify threshold bytes = .indeterminate ↔ bytes.length < 2 := by
  rw [← lengthHeader_eq_none_iff]
  unfold classify
  by_cases h : isHttpRequest bytes = true
  · obtain ⟨token, htoken, rest, rfl⟩ := isHttpRequest_iff.mp h
    obtain ⟨length, hlength⟩ := Option.isSome_iff_exists.mp (token_length htoken).1
    rw [if_pos h, lengthHeader_append hlength]
    simp
  · rw [if_neg h]
    cases lengthHeader bytes with
    | none => simp
    | some length =>
      simp only [reduceCtorEq, iff_false]
      split <;> exact Protocol.noConfusion

/-! ## 2. A text that is cut -/

/-- **What is left of a request is one where its token is.** -/
theorem isHttpRequest_take {token : Bytes} (h : token ∈ methodTokens) (rest : Bytes) (n : Nat) :
    isHttpRequest ((token ++ rest).take n) = true ↔ token.length ≤ n := by
  unfold isHttpRequest
  rw [List.any_eq_true]
  constructor
  · rintro ⟨token', h', hp⟩
    obtain ⟨hbegins, hle⟩ := List.prefix_take_iff.mp (List.isPrefixOf_iff_prefix.mp hp)
    -- two tokens at the head of one text
    rcases List.prefix_or_prefix_of_prefix hbegins (List.prefix_append token rest) with hp | hp
    · exact token_eq_of_prefix h h' hp ▸ hle
    · exact token_eq_of_prefix h' h hp ▸ hle
  · intro hle
    have hp : token <+: (token ++ rest).take n :=
      List.prefix_take_iff.mpr ⟨List.prefix_append token rest, hle⟩
    exact ⟨token, h, List.isPrefixOf_iff_prefix.mpr hp⟩

/-- A text that is cut behind its length header keeps it. -/
theorem lengthHeader_take (bytes : Bytes) {n : Nat} (h : 2 ≤ n) :
    lengthHeader (bytes.take n) = lengthHeader bytes := by
  obtain ⟨m, rfl⟩ := Nat.exists_eq_add_of_le' h
  match bytes with
  | [] | [_] | _ :: _ :: _ => rfl

/-- What is left of a request is not nothing. -/
theorem take_ne_nil {token : Bytes} (h : token ∈ methodTokens) (rest : Bytes) {n : Nat} (hn : 2 ≤ n) :
    (token ++ rest).take n ≠ [] := by
  obtain ⟨length, hlength⟩ := Option.isSome_iff_exists.mp (token_length h).1
  have hheader : lengthHeader ((token ++ rest).take n) = some length := by
    rw [lengthHeader_take _ hn, lengthHeader_append hlength]
  intro hnil
  rw [hnil] at hheader
  cases hheader

/-- **The protocol of a request that is cut**: its own where the token fits, and otherwise that of the
number that the first two letters of the method happen to be. -/
theorem classify_take {token : Bytes} (h : token ∈ methodTokens) (rest : Bytes) {n : Nat}
    (hn : 2 ≤ n) (threshold : Nat) :
    (token.length ≤ n → classify threshold ((token ++ rest).take n) = .http) ∧
      (n < token.length → ∃ length, lengthHeader token = some length ∧
        classify threshold ((token ++ rest).take n) =
          if length < threshold then .login else .game) := by
  have hhttp := isHttpRequest_take h rest n
  unfold classify
  refine ⟨fun hle => if_pos (hhttp.mpr hle), fun hlt => ?_⟩
  obtain ⟨length, hlength⟩ := Option.isSome_iff_exists.mp (token_length h).1
  refine ⟨length, hlength, ?_⟩
  rw [if_neg (fun hyes => Nat.not_le_of_lt hlt (hhttp.mp hyes)), lengthHeader_take _ hn,
    lengthHeader_append hlength]

/-! ## 3. A text that goes on -/

/-- **Bytes that decide for good**: there is a length header, and no method token goes on from where
they end. -/
structure Settled (front : Bytes) : Prop where
  header : 2 ≤ front.length
  token : ∀ token ∈ methodTokens, front <+: token → front = token

instance (front : Bytes) : Decidable (Settled front) :=
  decidable_of_iff (2 ≤ front.length ∧ ∀ token ∈ methodTokens, front <+: token → front = token)
    ⟨fun ⟨header, token⟩ => ⟨header, token⟩, fun h => ⟨h.header, h.token⟩⟩

/-- A token at the head of a settled text that goes on is all in that text. -/
theorem Settled.isHttpRequest_append {front : Bytes} (h : Settled front) (rest : Bytes) :
    isHttpRequest (front ++ rest) = isHttpRequest front := by
  rw [Bool.eq_iff_iff, isHttpRequest_iff, isHttpRequest_iff]
  constructor
  · rintro ⟨token, htoken, hp⟩
    rcases List.prefix_or_prefix_of_prefix hp (List.prefix_append front rest) with hin | hbehind
    · exact ⟨token, htoken, hin⟩
    · exact ⟨token, htoken, h.token token htoken hbehind ▸ List.prefix_refl _⟩
  · rintro ⟨token, htoken, hp⟩
    exact ⟨token, htoken, hp.trans (List.prefix_append front rest)⟩

/-- **A settled text is taken for the same**, whatever comes behind it. -/
theorem Settled.classify_append {front : Bytes} (h : Settled front) (threshold : Nat)
    (rest : Bytes) : classify threshold (front ++ rest) = classify threshold front := by
  obtain ⟨length, hlength⟩ : ∃ length, lengthHeader front = some length := by
    refine Option.ne_none_iff_exists'.mp fun hnone => ?_
    exact Nat.not_lt_of_le h.header (lengthHeader_eq_none_iff.mp hnone)
  unfold classify
  rw [h.isHttpRequest_append, lengthHeader_append hlength, hlength]

/-- Two settled beginnings of one text are taken for the same. -/
theorem Settled.classify_eq {front front' stream : Bytes} (h : Settled front) (h' : Settled front')
    (hp : front <+: stream) (hp' : front' <+: stream) (threshold : Nat) :
    classify threshold front = classify threshold front' := by
  rcases List.prefix_or_prefix_of_prefix hp hp' with ⟨rest, rfl⟩ | ⟨rest, rfl⟩
  · exact (h.classify_append threshold rest).symm
  · exact h'.classify_append threshold rest

/-- With fewer than two bytes, two more decide something. -/
theorem classify_append_of_short (threshold : Nat) {front : Bytes} (h : front.length < 2) :
    classify threshold (front ++ [0, 0]) ≠ classify threshold front := by
  rw [classify_eq_indeterminate_iff.mpr h, Ne, classify_eq_indeterminate_iff]
  simp

/-- A text that is taken for a request only with the rest of a token. -/
theorem classify_append_of_token (threshold : Nat) {front rest token : Bytes}
    (htoken : token ∈ methodTokens) (hsplit : front ++ rest = token) (hne : front ≠ token) :
    classify threshold (front ++ rest) ≠ classify threshold front := by
  have hwhole : isHttpRequest token = true := isHttpRequest_iff.mpr ⟨token, htoken, List.prefix_refl _⟩
  rw [hsplit, classify_eq_http_iff.mpr hwhole]
  intro hhttp
  obtain ⟨token', htoken', hp⟩ := isHttpRequest_iff.mp (classify_eq_http_iff.mp hhttp.symm)
  have hfront : front <+: token := ⟨rest, hsplit⟩
  -- no token begins another, so the token within is the whole one
  have hsame := token_eq_of_prefix htoken htoken' (hp.trans hfront)
  exact hne (hfront.eq_of_length_le (hsame ▸ hp.length_le))

/-- **Which texts are taken for the same whatever comes behind them**, for every threshold. -/
theorem settled_iff {threshold : Nat} {front : Bytes} :
    (∀ rest, classify threshold (front ++ rest) = classify threshold front) ↔ Settled front := by
  constructor
  · intro hsame
    refine ⟨Nat.le_of_not_lt fun hshort => ?_, fun token htoken hp => ?_⟩
    · exact classify_append_of_short threshold hshort (hsame [0, 0])
    · obtain ⟨rest, hsplit⟩ := hp
      by_contra hne
      exact classify_append_of_token threshold htoken hsplit hne (hsame rest)
  · intro h
    exact h.classify_append threshold

/-! ## 4. Thresholds -/

/-- **A greater threshold** makes logins of some games, and changes nothing else. -/
theorem classify_raised {threshold threshold' : Nat} (h : threshold ≤ threshold') (bytes : Bytes) :
    classify threshold' bytes = classify threshold bytes ∨
      classify threshold bytes = .game ∧ classify threshold' bytes = .login := by
  unfold classify
  by_cases hhttp : isHttpRequest bytes = true
  · rw [if_pos hhttp, if_pos hhttp]
    exact Or.inl rfl
  rw [if_neg hhttp, if_neg hhttp]
  cases lengthHeader bytes with
  | none => exact Or.inl rfl
  | some length =>
    dsimp only
    by_cases hlow : length < threshold
    · rw [if_pos hlow, if_pos (Nat.lt_of_lt_of_le hlow h)]
      exact Or.inl rfl
    · rw [if_neg hlow]
      split
      · exact Or.inr ⟨rfl, rfl⟩
      · exact Or.inl rfl

end TrafficRouter
