import LoginGate.Text.Classes

/-!
Contract: the one form in which the host of a request and the host of a URL are compared.

Owns: the removal of a port, of IPv6 brackets and of trailing dots, and ASCII lower-casing.
Does not own: whether a text is a valid host at all; any text has a comparison form.
-/

namespace LoginGate.HostName

/-- The host of an authority that carries a port or brackets; `none` when the text has neither
and stands for itself.

Brackets count only when they open the text and a port or nothing follows them. Without
brackets a single colon ends the host; two colons are an address without brackets. -/
def withoutPort? (authority : Text) : Option Text :=
  match authority with
  | '[' :: bracketed =>
    match Text.cut ']' bracketed with
    | some (host, after) =>
      if after.isEmpty || after.head? == some ':' then some host else none
    | none => none
  | _ =>
    match Text.cut ':' authority with
    | some (host, port) => if port.contains ':' then none else some host
    | none => none

/-- The comparison form of a host: trimmed, in lower case, without port, brackets and trailing
dots. -/
def normalize (authority : Text) : Text :=
  let lowered := Text.toAsciiLower (Text.trimBlank authority)
  Text.trimEnd (· == '.') ((withoutPort? lowered).getD lowered)

end LoginGate.HostName
