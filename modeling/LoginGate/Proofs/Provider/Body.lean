import LoginGate.Provider.Remote

/-!
Contract: an answer about a user does not depend on the pieces in which its body arrives.

Owns:
- the part of a body that is kept, which the reader of its pieces gives;
- the reader with its arithmetic checked, which never fails a check;
- the law that says what a provider answers, whatever the pieces.

Does not own: when there is a reply at all (`Proofs.Provider.Endpoints`), or the meaning of the body.

The crux is one piece. Cut to the room that is left and put behind what is kept already, it gives
the beginning of all that has arrived, and this again is what the next piece is put behind.
-/

namespace LoginGate.Provider

/-! ## The kept part of a body -/

/-- What is kept of a body that arrives to its end or breaks off: its beginning if it fills the
limit, and otherwise all of it, unless it breaks off. -/
def keptPart (limit : Nat) (complete : Bool) (body : Bytes) : Except UserinfoFailure Bytes :=
  if limit ≤ body.length then .ok (body.take limit)
  else if complete then .ok body
  else .error .interrupted

/-- A body that fills the limit is cut, whatever comes behind it. -/
theorem keptPart_append_of_le {limit : Nat} {front : Bytes} (fills : limit ≤ front.length)
    (complete : Bool) (rest : Bytes) :
    keptPart limit complete (front ++ rest) = .ok (front.take limit) := by
  have longer : limit ≤ (front ++ rest).length := by
    rw [List.length_append]
    omega
  unfold keptPart
  rw [if_pos longer, List.take_append_of_le_length fills]

private theorem keptPart_of_lt {limit : Nat} {body : Bytes} (short : body.length < limit)
    (complete : Bool) :
    keptPart limit complete body = if complete then .ok body else .error .interrupted := by
  unfold keptPart
  rw [if_neg (Nat.not_le.2 short)]

private theorem length_le_of_keptPart {limit : Nat} {complete : Bool} {body kept : Bytes}
    (keeps : keptPart limit complete body = .ok kept) : kept.length ≤ limit := by
  unfold keptPart at keeps
  split at keeps
  · cases keeps
    exact List.length_take_le limit body
  · rename_i short
    split at keeps
    · cases keeps
      omega
    · cases keeps

section Collect

variable {limit : Nat} {complete : Bool} {kept : Bytes}

/-- With a piece cut to the room that is left, the beginning of all that arrived is kept. -/
theorem append_take_room (fits : kept.length ≤ limit) (chunk : Bytes) :
    kept ++ chunk.take (limit - kept.length) = (kept ++ chunk).take limit := by
  rw [List.take_append, List.take_of_length_le fits]

/-- The reader keeps what is to be kept of the joined pieces. -/
theorem collect_eq_keptPart (room : kept.length < limit) (chunks : List Bytes) :
    collect limit complete kept chunks = keptPart limit complete (kept ++ chunks.flatten) := by
  induction chunks generalizing kept with
  | nil =>
    rw [List.flatten_nil, List.append_nil, keptPart_of_lt room, collect]
  | cons chunk rest inductionHypothesis =>
    rw [collect, append_take_room (Nat.le_of_lt room), List.flatten_cons, ← List.append_assoc]
    by_cases fills : limit ≤ (kept ++ chunk).length
    · -- The reader stops here, so neither the rest nor its end is asked for.
      have full : limit ≤ ((kept ++ chunk).take limit).length := by
        rw [List.length_take]
        omega
      rw [if_pos full, keptPart_append_of_le fills]
    · have whole : (kept ++ chunk).take limit = kept ++ chunk := by
        apply List.take_of_length_le
        omega
      rw [whole, if_neg fills]
      apply inductionHypothesis
      omega

end Collect

/-! ## Arithmetic -/

/-- The difference of two lengths, unless it falls below zero. -/
def difference? (limit length : Nat) : Option Nat :=
  if length ≤ limit then some (limit - length) else none

def front? (count : Nat) (chunk : Bytes) : Option Bytes :=
  if count ≤ chunk.length then some (chunk.take count) else none

/-- The reader with its arithmetic checked. It fails where the room that is left falls below zero,
where a piece is cut behind its end, and where more than the limit is kept. -/
def collectChecked? (limit : Nat) (complete : Bool) (kept : Bytes) :
    List Bytes -> Option (Except UserinfoFailure Bytes)
  | [] => some (if complete then .ok kept else .error .interrupted)
  | chunk :: chunks => do
    let room <- difference? limit kept.length
    let part <- front? (min chunk.length room) chunk
    let kept := kept ++ part
    if limit < kept.length then none
    else if limit ≤ kept.length then some (.ok kept)
    else collectChecked? limit complete kept chunks

/-- No check of the reader ever fails. -/
theorem collectChecked?_eq_collect {limit : Nat} {kept : Bytes} (fits : kept.length ≤ limit)
    (complete : Bool) (chunks : List Bytes) :
    collectChecked? limit complete kept chunks = some (collect limit complete kept chunks) := by
  induction chunks generalizing kept with
  | nil => rfl
  | cons chunk rest inductionHypothesis =>
    have room : difference? limit kept.length = some (limit - kept.length) := if_pos fits
    have cut : front? (min chunk.length (limit - kept.length)) chunk =
        some (chunk.take (limit - kept.length)) := by
      unfold front?
      rw [if_pos (Nat.min_le_left _ _), List.take_eq_take_min (i := limit - kept.length),
        Nat.min_comm]
    have bounded : (kept ++ chunk.take (limit - kept.length)).length ≤ limit := by
      rw [append_take_room fits]
      exact List.length_take_le _ _
    rw [collectChecked?, collect, room, Option.bind_eq_bind, Option.bind_some, cut,
      Option.bind_eq_bind, Option.bind_some]
    dsimp only
    rw [if_neg (Nat.not_lt.2 bounded)]
    split
    · rfl
    · exact inductionHypothesis bounded

/-! ## Answers -/

/-- What is answered when a reply has come. -/
structure Reply.AnsweredBy (reply : Reply) (answer : Except ProviderError Userinfo) : Prop where
  /-- Below the limit the end decides, which is either that of the body or a failure. -/
  short : reply.chunks.flatten.length < 32768 -> answer =
    if reply.complete then .ok { status := reply.status, body := reply.chunks.flatten }
    else .error (.userinfo "error decoding response body".toList)
  /-- Pieces that reach the limit are enough, whatever follows them. -/
  long : ∀ front rest, reply.chunks = front ++ rest -> 32768 ≤ front.flatten.length ->
    answer = .ok { status := reply.status, body := front.flatten.take 32768 }
  bounded : ∀ info, answer = .ok info -> info.body.length ≤ 32768

private theorem userinfo_eq_keptPart (reply : Reply) :
    reply.userinfo = (keptPart userinfoLimit reply.complete reply.chunks.flatten).map fun body =>
      { status := reply.status, body } := by
  have room : ([] : Bytes).length < userinfoLimit := by decide
  unfold Reply.userinfo
  rw [collect_eq_keptPart room, List.nil_append]

namespace Remote

variable {remote : Remote} {network : Network} {accessToken : Text} {request : Outgoing}
  {reply : Reply}

private theorem fetchUserinfo_of_reply (made : remote.userinfoRequest accessToken = .ok request)
    (arrived : send network request = some reply) :
    (remote.provider network).fetchUserinfo accessToken =
      reply.userinfo.mapError fun failure => .userinfo failure.message := by
  have read : remote.fetchUserinfo network accessToken = reply.userinfo := by
    unfold fetchUserinfo
    rw [made]
    simp only [bind, Except.bind, arrived]
  show (remote.fetchUserinfo network accessToken).mapError _ = _
  rw [read]

private theorem answeredBy_of_reply (made : remote.userinfoRequest accessToken = .ok request)
    (arrived : send network request = some reply) :
    reply.AnsweredBy ((remote.provider network).fetchUserinfo accessToken) := by
  rw [fetchUserinfo_of_reply made arrived, userinfo_eq_keptPart]
  constructor
  · intro (short : _ < userinfoLimit)
    rw [keptPart_of_lt short]
    cases reply.complete <;> rfl
  · intro front rest divided (fills : userinfoLimit ≤ _)
    rw [divided, List.flatten_append, keptPart_append_of_le fills]
    rfl
  · intro info answered
    cases keeps : keptPart userinfoLimit reply.complete reply.chunks.flatten with
    | error failure =>
      rw [keeps] at answered
      cases answered
    | ok body =>
      rw [keeps] at answered
      cases answered
      exact length_le_of_keptPart keeps

/-- **An answer about a user does not depend on the pieces of its body.** If the pieces of a reply
stay below the limit, the answer is all of them or the failure in which they end; if some of them
reach it, the answer is exactly the first bytes up to the limit, whatever follows. The room that is
left never falls below zero and no more than the limit is ever kept, and another reply with the
same status, bytes and end is answered in the same way. -/
theorem userinfo_independent_of_pieces (made : remote.userinfoRequest accessToken = .ok request)
    (arrived : send network request = some reply) :
    reply.AnsweredBy ((remote.provider network).fetchUserinfo accessToken) ∧
      collectChecked? userinfoLimit reply.complete [] reply.chunks =
        some (collect userinfoLimit reply.complete [] reply.chunks) ∧
      ∀ other again, send other request = some again -> again.status = reply.status ->
        again.chunks.flatten = reply.chunks.flatten -> again.complete = reply.complete ->
        (remote.provider other).fetchUserinfo accessToken =
          (remote.provider network).fetchUserinfo accessToken := by
  refine ⟨answeredBy_of_reply made arrived, collectChecked?_eq_collect (Nat.zero_le _) _ _, ?_⟩
  intro other again arrivedAgain status bytes ending
  rw [fetchUserinfo_of_reply made arrived, fetchUserinfo_of_reply made arrivedAgain,
    userinfo_eq_keptPart, userinfo_eq_keptPart, status, bytes, ending]

/-! ## A body that reaches the limit in its last piece -/

namespace Sample

def onMachine (name : Text) : Url where
  scheme := "https".toList
  authority := some {
    username := [], password := [], host := .ipv6 [0, 0, 0, 0, 0, 0, 0, 1], port := none }
  path := .segments [name]
  query := none
  fragment := none

def informed : Remote where
  authUrl := onMachine "authorize".toList
  tokenUrl := onMachine "token".toList
  userinfoUrl := "https://[::1]/userinfo".toList
  redirectUrl := "https://[::1]/auth/callback".toList
  clientId := "client".toList
  clientSecret := "secret".toList
  scopes := ["openid".toList]

/-- Some bytes, nothing, two bytes more, and then the body breaks off. -/
def overflowing (first : Bytes) : Reply where
  status := 200
  chunks := [first, [], [121, 122]]
  complete := false

end Sample

theorem sample_overflowing_userinfo :
    ∃ first request, first.length = 32767 ∧
      Sample.informed.userinfoRequest "token".toList = .ok request ∧
      send (fun _ => some (Sample.overflowing first)) request = some (Sample.overflowing first) ∧
      (Sample.informed.provider fun _ => some (Sample.overflowing first)).fetchUserinfo
        "token".toList = .ok { status := 200, body := first ++ [121] } := by
  obtain ⟨first, size⟩ : ∃ first : Bytes, first.length = 32767 :=
    ⟨List.replicate 32767 120, List.length_replicate⟩
  obtain ⟨request, made, sendable⟩ : ∃ request,
      Sample.informed.userinfoRequest "token".toList = .ok request ∧
        isSendable request.url = true := ⟨_, rfl, by decide⟩
  have arrived : send (fun _ => some (Sample.overflowing first)) request =
      some (Sample.overflowing first) := by
    unfold send
    rw [sendable]
    rfl
  have fills : 32768 ≤ (Sample.overflowing first).chunks.flatten.length := by
    simp [Sample.overflowing, size]
  have answered := (userinfo_independent_of_pieces made arrived).1.long _ []
    (List.append_nil _).symm fills
  refine ⟨first, request, size, made, arrived, answered.trans ?_⟩
  simp [Sample.overflowing, List.take_append, size, List.take_of_length_le]

end Remote
end LoginGate.Provider
