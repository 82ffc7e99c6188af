/-
  Requests and replies as the octets that travel.

  A request asks for the connection to be closed after the reply, so a reply is all that comes back.
  A reply that announces a later one (a status below 200) is skipped.  Its body is cut into chunks,
  or as long as its header says, or all that follows; statuses 204 and 304 have none.  A reply that
  breaks off early is no reply.
-/
import CloudRoster.Http.Message
import CloudRoster.Text.Blank

namespace CloudRoster.Http

open Text

/-! ## Requests -/

/-- The octets that ask for a URL. -/
def Request.octets (r : Request) : List UInt8 :=
  utf8 ("\r\n".intercalate [s!"{r.line} HTTP/1.1", "host: " ++ String.ofList r.url.placeText,
    s!"authorization: {r.authorization}", "accept: */*", "connection: close", "", ""])

/-! ## Replies -/

/-- The text up to the first line end, and what follows it. -/
def line? : List UInt8 → Option (List Char × List UInt8)
  | [] => none
  | b :: r =>
    if b = octet '\n' then some ([], r)
    else if b = octet '\r' ∧ r.head? = some (octet '\n') then some ([], r.tail)
    else (line? r).map fun (cs, rest) => (character b :: cs, rest)

theorem line?_length {s rest : List UInt8} {cs : List Char} (h : line? s = some (cs, rest)) :
    rest.length < s.length := by
  induction s generalizing cs rest with
  | nil => cases h
  | cons b r ih =>
    rw [line?] at h
    split at h
    · cases h; simp
    · split at h
      · cases h; simp only [List.length_tail, List.length_cons]; omega
      · simp only [Option.map_eq_some_iff, Prod.mk.injEq, Prod.exists] at h
        obtain ⟨cs', rest', h, _, rfl⟩ := h
        have := ih h
        simp only [List.length_cons]; omega

/-- Names, in lower case, and values of the headers, and what follows the empty line. -/
def headers? (s : List UInt8) : Option (List (List Char × List Char) × List UInt8) :=
  match h : line? s with
  | none => none
  | some ([], rest) => some ([], rest)
  | some (cs, rest) =>
    have := line?_length h
    (headers? rest).map fun (hs, body) =>
      let (name, value) := cut ':' cs
      ((name.map Char.toLower, strip isBlank (value.getD [])) :: hs, body)
termination_by s.length

/-- The content of chunks: each has its length before it, and the last is empty. -/
def unchunk? (s : List UInt8) : Option (List UInt8) :=
  match h : line? s with
  | none => none
  | some (cs, rest) =>
    match natural? 16 (strip isBlank (cut ';' cs).1) with
    | none => none
    | some 0 => some []
    | some n =>
      if rest.length < n then none
      else
        have := line?_length h
        (unchunk? (rest.drop (n + 2))).map (rest.take n ++ ·)
termination_by s.length
decreasing_by
  rw [List.length_drop]
  omega

/-- The body that follows a status and headers. -/
def body? (status : Status) (headers : List (List Char × List Char)) (rest : List UInt8) :
    Option (List UInt8) :=
  if status = 204 ∨ status = 304 then some []
  else if (headers.lookup "transfer-encoding".toList).any fun v =>
      v.map Char.toLower = "chunked".toList then unchunk? rest
  else
    match headers.lookup "content-length".toList with
    | none => some rest
    | some cs =>
      match natural? 10 cs with
      | none => none
      | some n => if rest.length < n then none else some (rest.take n)

/-- The status that a status line gives. -/
def status? (cs : List Char) : Option Status :=
  match pieces ' ' cs with
  | version :: code :: _ =>
    if version.take 7 = "HTTP/1.".toList ∧ code.length = 3 then natural? 10 code else none
  | _ => none

theorem headers?_length {s body : List UInt8} {hs : List (List Char × List Char)}
    (h : headers? s = some (hs, body)) : body.length < s.length := by
  fun_induction headers? s generalizing hs body with
  | case1 => cases h
  | case2 s rest hl => cases h; exact line?_length hl
  | case3 s cs rest hl _ hlt ih =>
    simp only [Option.map_eq_some_iff, Prod.exists] at h
    obtain ⟨hs', body', h, he⟩ := h
    cases he
    exact Nat.lt_trans (ih h) hlt

/-- The reply that a connection brings. -/
def Reply.ofOctets? (s : List UInt8) : Option Reply :=
  match h₁ : line? s with
  | none => none
  | some (cs, rest) =>
    match status? cs, h₂ : headers? rest with
    | some status, some (headers, rest) =>
      if status < 200 then
        have := line?_length h₁
        have := headers?_length h₂
        Reply.ofOctets? rest
      else (body? status headers rest).map fun body => ⟨status, body⟩
    | _, _ => none
termination_by s.length
decreasing_by omega

end CloudRoster.Http
