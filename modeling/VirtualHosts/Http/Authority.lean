import VirtualHosts.Text.Cut

/-!
The authority part of a request target or an address: user, host and port in
one text of ASCII characters.
-/

namespace VirtualHosts.Http

open VirtualHosts.Text

def authoritySigns : List Char :=
  ['!', '$', '&', '\'', '(', ')', '*', '+', ',', '-', '.', ';', '=', '_', '~']

def isAuthorityChar (c : Char) : Bool :=
  (97 ≤ c.toNat && c.toNat ≤ 122) || (65 ≤ c.toNat && c.toNat ≤ 90) ||
    c.isDigit || authoritySigns.contains c

/-- What counts while an authority is read from left to right. -/
structure AuthorityScan where
  colons : Nat
  opened : Bool
  closed : Bool
  percent : Bool
  afterUser : Bool

namespace AuthorityScan

def start : AuthorityScan := ⟨0, false, false, false, false⟩

/-- User information ends at an at sign and an address in brackets at the
closing one; colons and percent signs in them do not count. -/
def step? (scan : AuthorityScan) (c : Char) : Option AuthorityScan :=
  let scan := { scan with afterUser := false }
  if c = ':' then
    if 8 ≤ scan.colons then none
    else some { scan with colons := scan.colons + 1 }
  else if c = '[' then
    if scan.percent || scan.opened then none
    else some { scan with opened := true }
  else if c = ']' then
    if scan.opened && !scan.closed then
      some { scan with closed := true, colons := 0, percent := false }
    else none
  else if c = '@' then
    some { scan with colons := 0, percent := false, afterUser := true }
  else if c = '%' then some { scan with percent := true }
  else if isAuthorityChar c then some scan
  else none

def accepts (scan : AuthorityScan) : Bool :=
  scan.opened == scan.closed && scan.colons ≤ 1 && !scan.afterUser &&
    !scan.percent

end AuthorityScan

def isAuthority (s : List Char) : Bool :=
  !s.isEmpty &&
    match s.foldlM AuthorityScan.step? .start with
    | some scan => scan.accepts
    | none => false

end VirtualHosts.Http
