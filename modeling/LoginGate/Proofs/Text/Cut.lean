import LoginGate.Text.Basic

/-!
Contract: how a text is cut when another that holds no separator stands behind it.

Owns: one law for each cut, from the cut of the text alone.
Does not own: which characters a format cuts at.
-/

namespace LoginGate.Text

variable {separator : Char} {tail : Text}

theorem cut_append (missing : separator ∉ tail) (text : Text) :
    cut separator (text ++ tail) =
      (cut separator text).map fun (before, after) => (before, after ++ tail) := by
  induction text with
  | nil => rw [List.nil_append, cut_eq_none_iff.2 missing, cut]; rfl
  | cons c rest inductionHypothesis =>
    rw [List.cons_append, cut, cut]
    split
    · rfl
    · rw [inductionHypothesis, Option.map_map, Option.map_map]
      rfl

theorem cutLast_append (missing : separator ∉ tail) (text : Text) :
    cutLast separator (text ++ tail) =
      (cutLast separator text).map fun (before, after) => (before, after ++ tail) := by
  cases found : cutLast separator text with
  | none =>
    have absent : separator ∉ text.reverse := by
      apply cut_eq_none_iff.1
      simpa [cutLast] using found
    have nowhere : separator ∉ (text ++ tail).reverse := by
      rw [List.reverse_append, List.mem_append, not_or]
      exact ⟨by simpa using missing, absent⟩
    unfold cutLast
    rw [cut_eq_none_iff.2 nowhere]
    rfl
  | some parts =>
    obtain ⟨before, after⟩ := parts
    obtain ⟨shape, bare⟩ := cutLast_eq_some_iff.1 found
    refine cutLast_eq_some_iff.2 ⟨by simp [shape], ?_⟩
    rw [List.mem_append, not_or]
    exact ⟨bare, missing⟩

variable {stop : Char -> Bool}

private theorem breakAt_cons (c : Char) (rest : Text) :
    breakAt stop (c :: rest) =
      if stop c then ([], c :: rest) else (c :: (breakAt stop rest).1, (breakAt stop rest).2) := by
  unfold breakAt
  rw [List.takeWhile_cons, List.dropWhile_cons]
  cases stop c <;> rfl

theorem breakAt_append_of_cons {text front rest : Text} {c : Char}
    (stopped : breakAt stop text = (front, c :: rest)) :
    breakAt stop (text ++ tail) = (front, c :: rest ++ tail) := by
  induction text generalizing front with
  | nil => cases stopped
  | cons d text inductionHypothesis =>
    rw [breakAt_cons] at stopped
    rw [List.cons_append, breakAt_cons]
    split at stopped
    · rename_i here
      cases stopped
      rw [if_pos here]
      rfl
    · rename_i goesOn
      obtain ⟨rfl, behind⟩ := Prod.mk.inj stopped
      rw [if_neg goesOn, inductionHypothesis (Prod.ext rfl behind)]

theorem breakAt_append_of_stop {c : Char} {rest : Text} (stops : stop c = true) (text : Text) :
    (breakAt stop (text ++ c :: rest)).2 = (breakAt stop text).2 ++ c :: rest := by
  induction text with
  | nil => rw [List.nil_append, breakAt_cons, stops]; rfl
  | cons d text inductionHypothesis =>
    rw [List.cons_append, breakAt_cons, breakAt_cons]
    split
    · rfl
    · exact inductionHypothesis

theorem breakAt_eq_self (missing : ∀ c ∈ tail, stop c = false) : breakAt stop tail = (tail, []) := by
  induction tail with
  | nil => rfl
  | cons c rest inductionHypothesis =>
    rw [breakAt_cons, missing c List.mem_cons_self,
      inductionHypothesis fun d member => missing d (List.mem_cons_of_mem _ member)]
    rfl

theorem breakAt_append_of_eq_nil {text front : Text} (missing : ∀ c ∈ tail, stop c = false)
    (unstopped : breakAt stop text = (front, [])) :
    breakAt stop (text ++ tail) = (front ++ tail, []) := by
  induction text generalizing front with
  | nil =>
    cases unstopped
    exact breakAt_eq_self missing
  | cons c rest inductionHypothesis =>
    rw [breakAt_cons] at unstopped
    rw [List.cons_append, breakAt_cons]
    split at unstopped
    · cases unstopped
    · rename_i goesOn
      obtain ⟨rfl, behind⟩ := Prod.mk.inj unstopped
      rw [if_neg goesOn, inductionHypothesis (Prod.ext rfl behind)]
      rfl

theorem breakAt_append_of_stops {front rest : Text}
    (goesOn : ∀ c ∈ front, stop c = false)
    (stops : rest = [] ∨ ∃ c behind, rest = c :: behind ∧ stop c = true) :
    breakAt stop (front ++ rest) = (front, rest) := by
  rcases stops with rfl | ⟨c, behind, rfl, stopped⟩
  · rw [List.append_nil]
    exact breakAt_eq_self goesOn
  · induction front with
    | nil => rw [List.nil_append, breakAt_cons, stopped]; rfl
    | cons d front inductionHypothesis =>
      rw [List.forall_mem_cons] at goesOn
      rw [List.cons_append, breakAt_cons, goesOn.1, inductionHypothesis goesOn.2]
      rfl

theorem splitAny_append (missing : ∀ c ∈ tail, stop c = false) (text : Text) :
    ∃ parts last, splitAny stop text = parts ++ [last] ∧
      splitAny stop (text ++ tail) = parts ++ [last ++ tail] := by
  induction text with
  | nil =>
    refine ⟨[], [], rfl, ?_⟩
    simp only [List.nil_append]
    induction tail with
    | nil => rfl
    | cons c rest inductionHypothesis =>
      have first := missing c List.mem_cons_self
      rw [splitAny, first, inductionHypothesis fun d member => missing d (List.mem_cons_of_mem _ member)]
      rfl
  | cons c rest inductionHypothesis =>
    obtain ⟨parts, last, alone, together⟩ := inductionHypothesis
    rw [List.cons_append, splitAny, splitAny, alone, together]
    split
    · exact ⟨[] :: parts, last, rfl, rfl⟩
    · cases parts with
      | nil => exact ⟨[], c :: last, rfl, rfl⟩
      | cons part others => exact ⟨(c :: part) :: others, last, rfl, rfl⟩

end LoginGate.Text
