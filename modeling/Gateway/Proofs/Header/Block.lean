import Gateway.Proofs.Header.Name
import Gateway.Proofs.Header.Value
import Gateway.Proofs.Text.Numeral

/-!
# Header blocks hold their lines

A header block is made of lines that nothing in a value can end, start or join: the status line, a
line for each value, and an empty one. So all line ends in it are those of these lines, and the
reader `read?` finds in it what it was made from (`render_framed_and_read`). The values it finds are
the sanitized ones. Names and numbers are read as everywhere else in the gateway.
-/

namespace Gateway

/-! ### What stands on the lines -/

/-- The codes of the characters of a string lie between bounds if those of a list of them do. -/
theorem codes_of_mem_ofList {low high : Nat} {cs : List Char}
    (hcs : (cs.all fun c => Nat.ble low c.toNat && Nat.blt c.toNat high) = true) :
    ∀ c ∈ (String.ofList cs).toList, low ≤ c.toNat ∧ c.toNat < high := by
  intro c hc
  rw [String.toList_ofList] at hc
  have h := List.all_eq_true.mp hcs c hc
  rw [Bool.and_eq_true, Nat.ble_eq, Nat.blt_eq] at h
  exact h

/-- The phrases are made of printable ASCII characters. -/
theorem Status.codes_of_mem_phraseOf (n : Nat) :
    ∀ c ∈ (phraseOf n).toList, 32 ≤ c.toNat ∧ c.toNat < 127 := by
  unfold phraseOf
  split <;> exact codes_of_mem_ofList rfl

/-- The names of the protocols on the wire are made of printable ASCII characters and no blanks. -/
theorem Version.codes_of_mem_wireName (version : Version) :
    ∀ c ∈ version.wireName.toList, 32 < c.toNat ∧ c.toNat < 127 := by
  cases version <;> exact codes_of_mem_ofList rfl

namespace HeaderBlock

open Lines (IsLine joined lines cut? occurrences)

/-- The lines of a header block that are not empty. -/
def textLines (version : Version) (status : Status) (headers : HeaderMap) : List Bytes :=
  statusLine version status :: headers.toList.map fun e => headerLine e.1 e.2

variable (version : Version) (status : Status) (headers : HeaderMap)

/-- A header block is its lines, the last of them empty. -/
theorem render_eq_joined :
    render version status headers = joined (textLines version status headers ++ [[]]) := by
  rw [joined, List.flatMap_append, textLines, List.flatMap_cons, List.flatMap_map]
  rfl

theorem length_textLines :
    (textLines version status headers ++ [[]]).length = headers.size + 2 := by
  rw [List.length_append, textLines, List.length_cons, List.length_map]
  rfl

/-! ### Where the lines of a block end -/

/-- The octets of printable ASCII characters stay on one line. -/
theorem isLine_encode {cs : List Char} (hcs : ∀ c ∈ cs, 32 ≤ c.toNat ∧ c.toNat < 127) :
    IsLine (Utf8.encode cs) := by
  intro b hb
  have hle : 32 ≤ b.toNat := (Utf8.codes_of_mem_encode hcs hb).1
  constructor
  · rintro rfl
    exact absurd hle (by decide)
  · rintro rfl
    exact absurd hle (by decide)

/-- The digits of a code are printable. -/
theorem codes_of_mem_decimal {n : Nat} {c : Char} (hc : c ∈ Numeral.decimal n) :
    32 < c.toNat ∧ c.toNat < 127 := by
  have h := Numeral.isDigit_of_mem_decimal hc
  rw [Numeral.isDigit, Bool.and_eq_true, decide_eq_true_eq, decide_eq_true_eq] at h
  omega

theorem isLine_append {k l : Bytes} (hk : IsLine k) (hl : IsLine l) : IsLine (k ++ l) := by
  intro b hb
  rcases List.mem_append.mp hb with hb | hb
  · exact hk b hb
  · exact hl b hb

theorem isLine_statusLine (version : Version) (status : Status) :
    IsLine (statusLine version status) := by
  have hprotocol : IsLine (Utf8.ofString version.wireName) :=
    isLine_encode fun c hc =>
      have h := version.codes_of_mem_wireName c hc
      ⟨Nat.le_of_lt h.1, h.2⟩
  have hcode : IsLine (Utf8.encode (Numeral.decimal status.code)) :=
    isLine_encode fun c hc =>
      have h := codes_of_mem_decimal hc
      ⟨Nat.le_of_lt h.1, h.2⟩
  have hreason : IsLine (Utf8.ofString status.reason) :=
    isLine_encode (Status.codes_of_mem_phraseOf status.code)
  have hblank : IsLine [32] := by simp [IsLine]
  rw [statusLine]
  exact isLine_append (isLine_append (isLine_append (isLine_append hprotocol hblank) hcode) hblank)
    hreason

theorem isLine_headerLine (name : HeaderName) (value : HeaderValue) :
    IsLine (headerLine name value) := by
  have hname : IsLine (Utf8.encode name.wireText) := by
    intro b hb
    have h := (name.codes_of_mem_encode_wireText hb).1
    constructor
    · rintro rfl
      exact absurd h (by decide)
    · rintro rfl
      exact absurd h (by decide)
  have hmark : IsLine [58, 32] := by simp [IsLine]
  exact isLine_append (isLine_append hname hmark) (HeaderValue.isLine_sanitize value)

/-- Every line of a block stays on one line. -/
theorem isLine_of_mem : ∀ l ∈ textLines version status headers ++ [[]], IsLine l := by
  intro l hl
  rw [textLines, List.mem_append, List.mem_cons, List.mem_map, List.mem_singleton] at hl
  rcases hl with (rfl | ⟨e, -, rfl⟩) | rfl
  · exact isLine_statusLine version status
  · exact isLine_headerLine e.1 e.2
  · exact fun b hb => nomatch hb

theorem ne_nil_of_mem_textLines : ∀ l ∈ textLines version status headers, l ≠ [] := by
  intro l hl
  rcases List.mem_cons.mp hl with rfl | hl
  · simp [statusLine]
  · obtain ⟨e, -, rfl⟩ := List.mem_map.mp hl
    simp [headerLine]

/-- Where an empty line comes only at the end, nothing comes after one. -/
theorem after_empty_line {front before after : List Bytes} (hfront : ∀ l ∈ front, l ≠ [])
    (h : front ++ [[]] = before ++ [] :: after) : after = [] := by
  rcases List.append_eq_append_iff.mp h with ⟨c, -, hc⟩ | ⟨c, rfl, hc⟩
  · -- the empty line found is the last one, for there is nothing else after `front`
    cases c with
    | nil =>
      injection hc with _ hafter
      exact hafter.symm
    | cons l c =>
      injection hc with _ hnil
      exact absurd hnil.symm (by simp)
  · -- or else it would be a line of `front`
    cases c with
    | nil =>
      injection hc with _ hafter
    | cons l c =>
      injection hc with hl _
      exact absurd hl.symm (hfront l (by simp))

/-- Two line ends in a row are the end of the block. -/
theorem two_ends_last {before after : Bytes}
    (h : render version status headers = before ++ (lineEnd ++ lineEnd) ++ after) : after = [] := by
  rw [render_eq_joined] at h
  obtain ⟨ls, l, ks, hls, rfl⟩ :=
    Lines.empty_line_of_two_ends (isLine_of_mem version status headers) h
  have hsplit : textLines version status headers ++ [[]] = (ls ++ [l]) ++ [] :: ks := by
    rw [hls, List.append_assoc, List.singleton_append]
  rw [after_empty_line (ne_nil_of_mem_textLines version status headers) hsplit]
  rfl

/-- A block ends in two line ends. -/
theorem two_ends_suffix : lineEnd ++ lineEnd <:+ render version status headers := by
  have hlast : ∀ ls : List Bytes, ls ≠ [] → lineEnd ++ lineEnd <:+ joined (ls ++ [[]]) := by
    intro ls hls
    obtain ⟨init, l, rfl⟩ : ∃ init l, ls = init ++ [l] :=
      ⟨ls.dropLast, ls.getLast hls, (List.dropLast_concat_getLast hls).symm⟩
    exact ⟨joined init ++ l, by simp [joined]⟩
  rw [render_eq_joined]
  exact hlast _ (List.cons_ne_nil _ _)

/-! ### Reading a block -/

/-- What can be read in a header block. -/
structure Reading where
  protocol : String
  code : Nat
  reason : String
  /-- The headers, names in lower case. -/
  headers : List (HeaderName × HeaderValue)

/-- Protocol, code and phrase, each up to the next blank. -/
def readStatus? (l : Bytes) : Option (String × Nat × String) := do
  let (protocol, rest) ← cut? [32] l
  let (code, reason) ← cut? [32] rest
  return (← Utf8.toString? protocol, ← (Utf8.decode? code).bind (Numeral.parse? Numeral.bound16),
    ← Utf8.toString? reason)

/-- Name and value, parted at the first colon with a blank. -/
def readHeader? (l : Bytes) : Option (HeaderName × HeaderValue) := do
  let (name, value) ← cut? [58, 32] l
  return (← HeaderName.ofBytes? name, value)

/-- The headers on the lines up to an empty one, after which the last line end comes. -/
def readHeaders? : List Bytes → Option (List (HeaderName × HeaderValue))
  | [] => none
  | l :: ls =>
    if l = [] then
      if ls = [[]] then some [] else none
    else do
      return (← readHeader? l) :: (← readHeaders? ls)

/-- Reads a header block line by line. -/
def read? (block : Bytes) : Option Reading :=
  match lines block with
  | [] => none
  | l :: ls => do
    let (protocol, code, reason) ← readStatus? l
    return ⟨protocol, code, reason, ← readHeaders? ls⟩

/-- The words of the status line are found again. -/
theorem readStatus?_statusLine :
    readStatus? (statusLine version status) =
      some (version.wireName, status.code, status.reason) := by
  -- the phrase may hold blanks, but it comes after the two that count
  have hprotocol : (32 : UInt8) ∉ Utf8.ofString version.wireName := by
    cases version <;> decide
  have hcode : (32 : UInt8) ∉ Utf8.encode (Numeral.decimal status.code) := by
    intro h
    obtain ⟨c, hc, hcb⟩ := (Utf8.mem_encode_of_isAscii fun _ => Numeral.isAscii_of_mem_decimal).mp h
    exact absurd hcb (Nat.ne_of_gt (codes_of_mem_decimal hc).1)
  have hfirst : cut? [32] (statusLine version status) = some (Utf8.ofString version.wireName,
      Utf8.encode (Numeral.decimal status.code) ++ [32] ++ Utf8.ofString status.reason) := by
    rw [statusLine, List.append_assoc, List.append_assoc, ← List.append_assoc _ [32]]
    exact Lines.cut?_append [] hprotocol _
  have hsecond : cut? [32]
      (Utf8.encode (Numeral.decimal status.code) ++ [32] ++ Utf8.ofString status.reason) =
      some (Utf8.encode (Numeral.decimal status.code), Utf8.ofString status.reason) :=
    Lines.cut?_append [] hcode _
  have hprotocolText : Utf8.toString? (Utf8.ofString version.wireName) = some version.wireName :=
    Utf8.toString?_ofString version.wireName
  have hcodeText : Utf8.decode? (Utf8.encode (Numeral.decimal status.code)) =
      some (Numeral.decimal status.code) :=
    Utf8.decode?_encode (Numeral.decimal status.code)
  have hnumber : Numeral.parse? Numeral.bound16 (Numeral.decimal status.code) = some status.code :=
    Numeral.parse?_decimal (Nat.lt_of_le_of_lt status.code_le (by decide))
  have hreasonText : Utf8.toString? (Utf8.ofString status.reason) = some status.reason :=
    Utf8.toString?_ofString status.reason
  simp only [readStatus?, hfirst, hsecond, hprotocolText, hcodeText, hnumber, hreasonText,
    Option.bind_eq_bind, Option.bind_some, Option.pure_def]

/-- A value is parted from its name at the first colon with a blank, whatever the value holds. -/
theorem readHeader?_headerLine (name : HeaderName) (value : HeaderValue) :
    readHeader? (headerLine name value) = some (name, HeaderValue.sanitize value) := by
  -- the value may hold colons, but no name does
  have hname : (58 : UInt8) ∉ Utf8.encode name.wireText :=
    fun h => (name.codes_of_mem_encode_wireText h).2 rfl
  have hcut : cut? [58, 32] (headerLine name value) =
      some (Utf8.encode name.wireText, HeaderValue.sanitize value) :=
    Lines.cut?_append [32] hname _
  simp [readHeader?, hcut, name.ofBytes?_wireText]

/-- Header lines are read one by one, up to the empty line. -/
theorem readHeaders?_headerLines (es : List (HeaderName × HeaderValue)) :
    readHeaders? ((es.map fun e => headerLine e.1 e.2) ++ [[], []]) =
      some (es.map fun e => (e.1, HeaderValue.sanitize e.2)) := by
  induction es with
  | nil => rfl
  | cons e es ih =>
    have hne : headerLine e.1 e.2 ≠ [] := by simp [headerLine]
    rw [List.map_cons, List.cons_append, readHeaders?, if_neg hne, readHeader?_headerLine, ih]
    rfl

/-- A header block is read as what it was made from, with its values sanitized. -/
theorem read?_render :
    read? (render version status headers) = some
      { protocol := version.wireName
        code := status.code
        reason := status.reason
        headers := headers.toList.map fun e => (e.1, HeaderValue.sanitize e.2) } := by
  have hlines : lines (render version status headers) = statusLine version status ::
      ((headers.toList.map fun e => headerLine e.1 e.2) ++ [[], []]) := by
    rw [render_eq_joined, Lines.lines_joined (isLine_of_mem version status headers),
      List.append_assoc, textLines]
    rfl
  rw [read?, hlines]
  simp [readStatus?_statusLine, readHeaders?_headerLines]

/-- Nothing can be injected into a header block. Its carriage returns and line feeds come in pairs
only, one pair for each header value, one for the status line and one more at the end; and two pairs
in a row come only there. What can be read in the block is what it was made from, up to sanitizing
the values, so that two maps make the same block only if they agree up to that. -/
theorem render_framed_and_read :
    (∀ before after, render version status headers = before ++ 13 :: after →
      ∃ rest, after = 10 :: rest) ∧
    (∀ before after, render version status headers = before ++ 10 :: after →
      ∃ rest, before = rest ++ [13]) ∧
    occurrences [13, 10] (render version status headers) = headers.size + 2 ∧
    [13, 10, 13, 10] <:+ render version status headers ∧
    (∀ before after, render version status headers = before ++ [13, 10, 13, 10] ++ after →
      after = []) ∧
    read? (render version status headers) = some
      { protocol :=
          if version = Version.http09 ∨ version = Version.http10 then "HTTP/1.0" else "HTTP/1.1"
        code := status.code
        reason := Status.phraseOf status.code
        headers := headers.toList.map fun e => (e.1, HeaderValue.sanitize e.2) } ∧
    ∀ others : HeaderMap, render version status others = render version status headers →
      others.toList.map (fun e => (e.1, HeaderValue.sanitize e.2)) =
        headers.toList.map fun e => (e.1, HeaderValue.sanitize e.2) := by
  have hline := isLine_of_mem version status headers
  refine ⟨?_, ?_, ?_, two_ends_suffix version status headers, ?_, ?_, ?_⟩
  · intro before after h
    rw [render_eq_joined] at h
    exact Lines.lineFeed_after hline h
  · intro before after h
    rw [render_eq_joined] at h
    exact Lines.carriageReturn_before hline h
  · rw [render_eq_joined, ← length_textLines]
    exact Lines.occurrences_joined hline
  · intro before after h
    exact two_ends_last version status headers h
  · rw [read?_render]
    cases version <;> rfl
  · -- both maps are what is read in the one block
    intro others h
    have hread := read?_render version status others
    rw [h, read?_render] at hread
    exact (congrArg Reading.headers (Option.some.inj hread)).symm

end HeaderBlock

end Gateway
