import Xnestjs.Model.Url
import Mathlib.Data.Bool.AllAny

/-!
# Writing URLs and reading them back

`UrlParts` are the components of a URL with an authority, each of a form that can stand in
one; `write` puts them together, with the user information escaped. `newURL_write` is what
reading makes of the result: user information stays escaped, the host is what `readHost` makes
of it, and a missing component comes out empty.
-/

set_option autoImplicit false

namespace Xnestjs.Model

/-! ## Escapes -/

/-- A hexadecimal digit is one of sixteen characters. -/
theorem hexDigit_mem (n : ℕ) : hexDigit n ∈ ['0', '1', '2', '3', '4', '5', '6', '7', '8', '9',
    'A', 'B', 'C', 'D', 'E', 'F'] := by
  unfold hexDigit
  rw [List.getD_eq_getElem?_getD]
  cases hget : ['0', '1', '2', '3', '4', '5', '6', '7', '8', '9', 'A', 'B', 'C', 'D', 'E',
      'F'][n]? with
  | none => decide
  | some c => exact List.mem_of_getElem? hget

/-- The characters that escapes are made of. -/
def escapeChars : List Char := ['%', '0', '1', '2', '3', '4', '5', '6', '7', '8', '9', 'A', 'B',
  'C', 'D', 'E', 'F']

/-- Escapes are written in `%` and hexadecimal digits. -/
theorem mem_escapes {c d : Char} (h : d ∈ escapes c) : d ∈ escapeChars := by
  unfold escapes at h
  obtain ⟨b, -, hb⟩ := List.mem_flatMap.mp h
  rcases List.mem_cons.mp hb with rfl | hb
  · decide
  · rcases List.mem_cons.mp hb with rfl | hb
    · exact List.mem_cons_of_mem _ (hexDigit_mem _)
    · rw [List.mem_singleton.mp hb]
      exact List.mem_cons_of_mem _ (hexDigit_mem _)

/-- An escaped character takes three characters at least. -/
theorem length_escapes (c : Char) : 3 ≤ (escapes c).length := by
  have hlength : (escapes c).length = 3 * (String.utf8EncodeChar c).length := by
    unfold escapes
    induction String.utf8EncodeChar c with
    | nil => rfl
    | cons b bs ih =>
      rw [List.flatMap_cons, List.length_append, ih, List.length_cons]
      simp only [List.length_cons, List.length_nil]
      omega
  have hsize : 0 < c.utf8Size := c.utf8Size_pos
  rw [hlength, String.length_utf8EncodeChar]
  omega

/-- What is encoded has the characters that are not encoded, and those of escapes. -/
theorem mem_percentEncode {encodes : Char → Bool} {s : List Char} {d : Char}
    (h : d ∈ percentEncode encodes s) : d ∈ s ∧ encodes d = false ∨ d ∈ escapeChars := by
  obtain ⟨c, hc, hd⟩ := List.mem_flatMap.mp h
  by_cases hencodes : encodes c = true
  · rw [if_pos hencodes] at hd
    exact .inr (mem_escapes hd)
  · rw [if_neg hencodes, List.mem_singleton] at hd
    rw [Bool.not_eq_true] at hencodes
    exact .inl (hd ▸ ⟨hc, hencodes⟩)

/-- A text does not get shorter. -/
theorem length_percentEncode (encodes : Char → Bool) (s : List Char) :
    s.length ≤ (percentEncode encodes s).length := by
  induction s with
  | nil => exact Nat.le_refl 0
  | cons c s ih =>
    have hc := length_escapes c
    unfold percentEncode at ih ⊢
    rw [List.flatMap_cons, List.length_append, List.length_cons]
    split_ifs
    · omega
    · rw [List.length_singleton]
      omega

/-- Only a text without characters of the set is left as it is: each escape makes it longer. -/
theorem percentEncode_eq_self_iff (encodes : Char → Bool) (s : List Char) :
    percentEncode encodes s = s ↔ ∀ c ∈ s, encodes c = false := by
  induction s with
  | nil => simp [percentEncode]
  | cons c s ih =>
    have hcons : percentEncode encodes (c :: s) =
        (if encodes c then escapes c else [c]) ++ percentEncode encodes s := List.flatMap_cons ..
    rw [hcons, List.forall_mem_cons]
    by_cases hc : encodes c = true
    · rw [if_pos hc]
      constructor
      · intro heq
        have hlength := congrArg List.length heq
        rw [List.length_append, List.length_cons] at hlength
        have hescapes := length_escapes c
        have hrest := length_percentEncode encodes s
        omega
      · intro hall
        rw [hc] at hall
        cases hall.1
    · rw [if_neg hc]
      rw [Bool.not_eq_true] at hc
      simp [hc, ih]

/-- A text without characters to encode stays as it is. -/
theorem percentEncode_of_plain {encodes : Char → Bool} {s : List Char}
    (h : ∀ c ∈ s, encodes c = false) : percentEncode encodes s = s :=
  (percentEncode_eq_self_iff encodes s).mpr h

/-! ## Decimal numbers -/

/-- A number is written in digits. -/
theorem isDigit_of_mem_decimal {n : ℕ} {c : Char} (h : c ∈ Nat.toDigits 10 n) :
    c.isDigit = true := Nat.isDigit_of_mem_toDigits (by decide) (by decide) h

/-- A digit is one of ten characters. -/
theorem mem_digits_of_isDigit {c : Char} (h : c.isDigit = true) :
    c ∈ ['0', '1', '2', '3', '4', '5', '6', '7', '8', '9'] := by
  simp only [Char.isDigit, Bool.and_eq_true, decide_eq_true_eq, ge_iff_le] at h
  have hval : ∀ n : ℕ, 48 ≤ n → n ≤ 57 → Char.ofNat n ∈
      ['0', '1', '2', '3', '4', '5', '6', '7', '8', '9'] := by
    decide
  have := hval c.toNat h.1 h.2
  rwa [Char.ofNat_toNat] at this

/-- A predicate that all digits satisfy holds of all characters of a decimal number. -/
theorem decimal_all {p : Char → Prop}
    (hp : ∀ c ∈ ['0', '1', '2', '3', '4', '5', '6', '7', '8', '9'], p c) {n : ℕ} :
    ∀ c ∈ Nat.toDigits 10 n, p c :=
  fun c hc => hp c (mem_digits_of_isDigit (isDigit_of_mem_decimal hc))

/-- `parseInt` reads a decimal number back, as the double that is nearest. -/
theorem parseInt_decimal (n : ℕ) : parseInt (Nat.toDigits 10 n) = toNumber false n := by
  have hdigits : (Nat.toDigits 10 n).takeWhile Char.isDigit = Nat.toDigits 10 n :=
    List.takeWhile_eq_self_iff.mpr fun c hc => isDigit_of_mem_decimal hc
  have hvalue : Nat.ofDigitChars 10 (Nat.toDigits 10 n) 0 = n := Nat.ofDigitChars_ten_toDigits
  have hfirst := decimal_all (n := n)
    (p := fun c => isWhite c = false ∧ c ≠ '-' ∧ c ≠ '+')
    (List.all_iff_forall_prop.mp (by decide))
  have hsign : readSign ((Nat.toDigits 10 n).dropWhile isWhite) =
      (false, Nat.toDigits 10 n) := by
    cases hs : Nat.toDigits 10 n with
    | nil => rfl
    | cons c cs =>
      rw [hs] at hfirst
      obtain ⟨hwhite, hminus, hplus⟩ := hfirst c List.mem_cons_self
      rw [List.dropWhile_cons_of_neg (by simp [hwhite])]
      unfold readSign
      split
      · exact absurd (List.cons.inj ‹_›).1 hminus
      · exact absurd (List.cons.inj ‹_›).1 hplus
      · rfl
  unfold parseInt
  simp only [hsign, hdigits, hvalue, Nat.toDigits_ne_nil, if_false]

/-- A port of at most 65535 is read back. -/
theorem readPort_decimal {n : ℕ} (h : n ≤ 65535) :
    readPort (Nat.toDigits 10 n) = some (Nat.toDigits 10 n) := by
  have hdigits : (Nat.toDigits 10 n).all Char.isDigit = true :=
    List.all_eq_true.mpr fun c hc => isDigit_of_mem_decimal hc
  have hvalue : Nat.ofDigitChars 10 (Nat.toDigits 10 n) 0 = n := Nat.ofDigitChars_ten_toDigits
  unfold readPort
  rw [if_pos hdigits, if_neg Nat.toDigits_ne_nil, hvalue, if_pos h]

/-- So is the path of a number. -/
theorem readPath_decimal (n : ℕ) :
    readPath ('/' :: Nat.toDigits 10 n) = '/' :: Nat.toDigits 10 n := by
  have hchars := decimal_all (n := n)
    (p := fun c => c ≠ '/' ∧ pathSet c = false ∧ c ≠ '.' ∧ c ≠ '%' ∧ c.toLower = c)
    (List.all_iff_forall_prop.mp (by decide))
  have hsplit : (Nat.toDigits 10 n).splitOn '/' = [Nat.toDigits 10 n] := by
    rw [List.splitOn_eq_splitOnP]
    exact List.splitOnP_eq_singleton fun c hc => by simpa using (hchars c hc).1
  have hlower : (Nat.toDigits 10 n).map Char.toLower = Nat.toDigits 10 n := by
    rw [List.map_congr_left fun c hc => (hchars c hc).2.2.2.2, List.map_id']
  have hsingle : isSingleDot (Nat.toDigits 10 n) = false := by
    unfold isSingleDot
    rw [hlower, decide_eq_false_iff_not]
    intro hmem
    have hdots : ∀ s ∈ [['.'], ['%', '2', 'e']], '.' ∈ s ∨ '%' ∈ s := by decide
    rcases hdots _ hmem with hc | hc
    · exact (hchars _ hc).2.2.1 rfl
    · exact (hchars _ hc).2.2.2.1 rfl
  have hdouble : isDoubleDot (Nat.toDigits 10 n) = false := by
    unfold isDoubleDot
    rw [hlower, decide_eq_false_iff_not]
    intro hmem
    have hdots : ∀ s ∈ [['.', '.'], ['.', '%', '2', 'e'], ['%', '2', 'e', '.'],
        ['%', '2', 'e', '%', '2', 'e']], '.' ∈ s ∨ '%' ∈ s := by decide
    rcases hdots _ hmem with hc | hc
    · exact (hchars _ hc).2.2.1 rfl
    · exact (hchars _ hc).2.2.2.1 rfl
  have hencode : percentEncode pathSet (Nat.toDigits 10 n) = Nat.toDigits 10 n :=
    percentEncode_of_plain fun c hc => (hchars c hc).2.1
  simp only [readPath, hsplit, addSegments, addSegment, hsingle, hdouble, hencode,
    Bool.false_eq_true, if_false, List.nil_append, List.flatMap_singleton]

/-! ## The parts of a URL -/

/-- A way to escape user information: the characters it keeps need no escape in a URL and do not
begin one. -/
structure UserinfoEncoding where
  keeps : Char → Bool
  plain : ∀ c, keeps c = true → userinfoSet c = false ∧ c ≠ '%'

def UserinfoEncoding.encode (e : UserinfoEncoding) (s : List Char) : List Char :=
  percentEncode (fun c => !e.keeps c) s

/-- A scheme in lower case, without rules of its own. -/
structure Scheme where
  text : List Char
  nonempty : text ≠ []
  alpha : ∀ c, text.head? = some c → c.isAlpha = true
  chars : ∀ c ∈ text, isSchemeChar c = true ∧ c.toLower = c ∧ 0x20 < c.toNat
  plain : text ∉ specialSchemes

/-- A host name, or an IPv4 address. -/
structure HostName where
  text : List Char
  nonempty : text ≠ []
  allowed : ∀ c ∈ text, 0x20 < c.toNat ∧ forbiddenInHost c = false

/-- An IPv6 address, without the brackets it has in a URL. -/
structure AddressLiteral where
  text : List Char
  chars : ∀ c ∈ text, c ∈ "0123456789abcdefABCDEF:.".toList

inductive UrlHost where
  | name (n : HostName)
  | address (a : AddressLiteral)

def UrlHost.text : UrlHost → List Char
  | .name n => n.text
  | .address a => a.text

/-- The host as it stands in the URL. -/
def UrlHost.written : UrlHost → List Char
  | .name n => n.text
  | .address a => '[' :: (a.text ++ [']'])

/-- What follows the port: nothing, a slash, or a slash with a number. -/
inductive UrlPath where
  | absent
  | slash
  | number (n : ℕ)
  deriving DecidableEq

def UrlPath.written : UrlPath → List Char
  | .absent => []
  | .slash => ['/']
  | .number n => '/' :: Nat.toDigits 10 n

/-- The components of a URL after its scheme. The user information is absent, a user name, or a
user name and a password; each of these may be empty. -/
structure UrlParts where
  userinfo : Option (List Char × Option (List Char))
  host : UrlHost
  port : Option ℕ
  port_le : ∀ n, port = some n → n ≤ 65535
  path : UrlPath

namespace UrlParts

def username (u : UrlParts) : List Char := (u.userinfo.map Prod.fst).getD []

def password (u : UrlParts) : List Char := (u.userinfo.bind Prod.snd).getD []

def writtenPort (u : UrlParts) : List Char :=
  match u.port with
  | none => []
  | some n => ':' :: Nat.toDigits 10 n

/-- The user name and the password, before the `@`. -/
def writtenCredentials (e : UserinfoEncoding) : List Char × Option (List Char) → List Char
  | (name, none) => e.encode name
  | (name, some password) => e.encode name ++ ':' :: e.encode password

def writtenUserinfo (e : UserinfoEncoding) (u : UrlParts) : List Char :=
  match u.userinfo with
  | none => []
  | some credentials => writtenCredentials e credentials ++ ['@']

def writtenAuthority (e : UserinfoEncoding) (u : UrlParts) : List Char :=
  u.writtenUserinfo e ++ (u.host.written ++ u.writtenPort)

/-- The URL with these components. -/
def write (e : UserinfoEncoding) (scheme : Scheme) (u : UrlParts) : List Char :=
  scheme.text ++ ':' :: '/' :: '/' :: (u.writtenAuthority e ++ u.path.written)

end UrlParts

/-! ## Which characters are written where -/

/-- What escaped user information consists of. -/
theorem UserinfoEncoding.encoded (e : UserinfoEncoding) {s : List Char} {c : Char}
    (h : c ∈ e.encode s) : userinfoSet c = false := by
  rcases mem_percentEncode h with ⟨-, hkeeps⟩ | hescape
  · exact (e.plain c (by simpa using hkeeps)).1
  · have hplain : ∀ c ∈ escapeChars, userinfoSet c = false :=
      List.all_iff_forall_prop.mp (by decide)
    exact hplain c hescape

/-- Reading user information leaves it escaped. -/
theorem UserinfoEncoding.reencode (e : UserinfoEncoding) (s : List Char) :
    percentEncode userinfoSet (e.encode s) = e.encode s :=
  percentEncode_of_plain fun _ => e.encoded

/-- An encoding leaves a text alone exactly when it keeps its characters. -/
theorem UserinfoEncoding.encode_eq_self_iff (e : UserinfoEncoding) (s : List Char) :
    e.encode s = s ↔ ∀ c ∈ s, e.keeps c = true := by
  unfold UserinfoEncoding.encode
  rw [percentEncode_eq_self_iff]
  simp

/-- What is not in the set is visible and not one of the characters that structure a URL. -/
theorem not_userinfoSet {c : Char} (h : userinfoSet c = false) :
    0x20 < c.toNat ∧ c ≠ '/' ∧ c ≠ '?' ∧ c ≠ '#' ∧ c ≠ '@' ∧ c ≠ ':' := by
  simp only [userinfoSet, pathSet, controlSet, Bool.or_eq_false_iff, decide_eq_false_iff_not,
    List.mem_cons, List.not_mem_nil, or_false, not_or] at h
  obtain ⟨⟨⟨hcontrol, -⟩, hspace, -, hhash, -, -, hquery, -⟩, hslash, hcolon, -, -, hat, -⟩ := h
  refine ⟨?_, hslash, hquery, hhash, hat, hcolon⟩
  have hne : c.toNat ≠ 0x20 := by
    intro heq
    apply hspace
    rw [← Char.ofNat_toNat c, heq]
  omega

/-- A host has characters, all of them visible and none that ends an authority or its user
information. -/
theorem UrlHost.written_chars (host : UrlHost) : host.written ≠ [] ∧ ∀ c ∈ host.written,
    0x20 < c.toNat ∧ c ≠ '/' ∧ c ≠ '?' ∧ c ≠ '#' ∧ c ≠ '@' := by
  cases host with
  | name n =>
    refine ⟨n.nonempty, fun c hc => ?_⟩
    obtain ⟨hvisible, hallowed⟩ := n.allowed c hc
    simp only [forbiddenInHost, decide_eq_false_iff_not, List.mem_cons, List.not_mem_nil,
      or_false, not_or] at hallowed
    exact ⟨hvisible, by tauto⟩
  | address a =>
    refine ⟨List.cons_ne_nil _ _, fun c hc => ?_⟩
    have hplain : ∀ c ∈ '[' :: ']' :: "0123456789abcdefABCDEF:.".toList,
        0x20 < c.toNat ∧ c ≠ '/' ∧ c ≠ '?' ∧ c ≠ '#' ∧ c ≠ '@' :=
      List.all_iff_forall_prop.mp (by decide)
    apply hplain
    rcases List.mem_cons.mp hc with rfl | hc
    · exact List.mem_cons_self
    · rcases List.mem_append.mp hc with hc | hc
      · exact List.mem_cons_of_mem _ (List.mem_cons_of_mem _ (a.chars c hc))
      · rw [List.mem_singleton.mp hc]
        exact List.mem_cons_of_mem _ List.mem_cons_self

/-- The characters of a written port end no part of a URL. -/
theorem UrlParts.writtenPort_chars (u : UrlParts) : ∀ c ∈ u.writtenPort,
    0x20 < c.toNat ∧ c ≠ '/' ∧ c ≠ '?' ∧ c ≠ '#' ∧ c ≠ '@' := by
  unfold writtenPort
  cases u.port with
  | none => simp
  | some n =>
    intro c hc
    rcases List.mem_cons.mp hc with rfl | hc
    · decide
    · exact decimal_all
        (p := fun c => 0x20 < c.toNat ∧ c ≠ '/' ∧ c ≠ '?' ∧ c ≠ '#' ∧ c ≠ '@')
        (List.all_iff_forall_prop.mp (by decide)) c hc

/-- Those of a path begin no query and no fragment. -/
theorem UrlPath.written_chars (path : UrlPath) : ∀ c ∈ path.written,
    0x20 < c.toNat ∧ c ≠ '?' ∧ c ≠ '#' := by
  have hslash : 0x20 < '/'.toNat ∧ '/' ≠ '?' ∧ '/' ≠ '#' := by decide
  intro c hc
  cases path with
  | absent => cases hc
  | slash =>
    rw [List.mem_singleton.mp hc]
    exact hslash
  | number n =>
    rcases List.mem_cons.mp hc with rfl | hc
    · exact hslash
    · exact decimal_all (p := fun c => 0x20 < c.toNat ∧ c ≠ '?' ∧ c ≠ '#')
        (List.all_iff_forall_prop.mp (by decide)) c hc

/-- Those of encoded credentials end no authority. -/
theorem UrlParts.writtenCredentials_chars (e : UserinfoEncoding)
    (credentials : List Char × Option (List Char)) : ∀ c ∈ writtenCredentials e credentials,
    0x20 < c.toNat ∧ c ≠ '/' ∧ c ≠ '?' ∧ c ≠ '#' := by
  have hencoded : ∀ s, ∀ c ∈ e.encode s, 0x20 < c.toNat ∧ c ≠ '/' ∧ c ≠ '?' ∧ c ≠ '#' := by
    intro s c hc
    obtain ⟨hvisible, hslash, hquery, hhash, -, -⟩ := not_userinfoSet (e.encoded hc)
    exact ⟨hvisible, hslash, hquery, hhash⟩
  obtain ⟨name, password⟩ := credentials
  intro c hc
  cases password with
  | none => exact hencoded name c hc
  | some password =>
    rcases List.mem_append.mp hc with hc | hc
    · exact hencoded name c hc
    · rcases List.mem_cons.mp hc with rfl | hc
      · decide
      · exact hencoded password c hc

/-- Nor do those of an authority itself. -/
theorem UrlParts.writtenAuthority_chars (e : UserinfoEncoding) (u : UrlParts) :
    ∀ c ∈ u.writtenAuthority e, 0x20 < c.toNat ∧ endsAuthority c = false := by
  have hends : ∀ c : Char, c ≠ '/' → c ≠ '?' → c ≠ '#' → endsAuthority c = false := by
    intro c hslash hquery hhash
    simp [endsAuthority, hslash, hquery, hhash]
  intro c hc
  rcases List.mem_append.mp hc with hc | hc
  · unfold writtenUserinfo at hc
    cases huser : u.userinfo with
    | none =>
      rw [huser] at hc
      cases hc
    | some credentials =>
      rw [huser] at hc
      rcases List.mem_append.mp hc with hc | hc
      · obtain ⟨hvisible, hslash, hquery, hhash⟩ := writtenCredentials_chars e credentials c hc
        exact ⟨hvisible, hends c hslash hquery hhash⟩
      · rw [List.mem_singleton.mp hc]
        decide
  · have hplain : 0x20 < c.toNat ∧ c ≠ '/' ∧ c ≠ '?' ∧ c ≠ '#' ∧ c ≠ '@' := by
      rcases List.mem_append.mp hc with hc | hc
      · exact u.host.written_chars.2 c hc
      · exact u.writtenPort_chars c hc
    obtain ⟨hvisible, hslash, hquery, hhash, -⟩ := hplain
    exact ⟨hvisible, hends c hslash hquery hhash⟩

/-! ## Hosts -/

/-- The name of a host is read as it is, its control characters encoded. -/
theorem readHost_name (ipv6 : List Char → Option (List Char)) (n : HostName) :
    readHost ipv6 n.text = some (percentEncode controlSet n.text) := by
  have hallowed : n.text.any forbiddenInHost = false := by
    apply List.any_eq_false.mpr
    intro c hc
    simp [(n.allowed c hc).2]
  unfold readHost
  split
  · next rest htext =>
    have hopen := (n.allowed '[' (by rw [htext]; exact List.mem_cons_self)).2
    exact absurd hopen (by decide)
  · rw [hallowed]
    rfl

/-- An address in brackets is read in brackets. -/
theorem readHost_address (ipv6 : List Char → Option (List Char)) (a : AddressLiteral) :
    readHost ipv6 (UrlHost.address a).written =
      (ipv6 a.text).map fun address => '[' :: address ++ [']'] := by
  simp [UrlHost.written, readHost]

/-! ## Reading what was written -/

/-- Visible characters are not stripped. -/
theorem stripUrl_of_visible {s : List Char} (h : ∀ c ∈ s, 0x20 < c.toNat) : stripUrl s = s := by
  have hdrop : ∀ t : List Char, (∀ c ∈ t, 0x20 < c.toNat) →
      t.dropWhile (fun c => decide (c.toNat ≤ 0x20)) = t := by
    intro t ht
    cases t with
    | nil => rfl
    | cons c cs =>
      have hc := ht c List.mem_cons_self
      exact List.dropWhile_cons_of_neg (by simpa using hc)
  unfold stripUrl
  dsimp only
  rw [hdrop s h, hdrop s.reverse (by simpa using h), List.reverse_reverse]
  apply List.filter_eq_self.mpr
  intro c hc
  have hvisible := h c hc
  have hblank : c ≠ '\t' ∧ c ≠ '\n' ∧ c ≠ '\r' := by
    refine ⟨?_, ?_, ?_⟩ <;>
    · rintro rfl
      exact absurd hvisible (by decide)
  simp [hblank]

/-- A scheme is read up to its colon. -/
theorem readScheme_write (scheme : Scheme) (rest : List Char) :
    readScheme (scheme.text ++ ':' :: rest) = some (scheme.text, rest) := by
  have hchars : ∀ c ∈ scheme.text, isSchemeChar c = true := fun c hc => (scheme.chars c hc).1
  have htake : (scheme.text ++ ':' :: rest).takeWhile isSchemeChar = scheme.text := by
    rw [List.takeWhile_append_of_pos hchars, List.takeWhile_cons_of_neg (by decide),
      List.append_nil]
  have hdrop : (scheme.text ++ ':' :: rest).dropWhile isSchemeChar = ':' :: rest := by
    rw [List.dropWhile_append_of_pos hchars, List.dropWhile_cons_of_neg (by decide)]
  have hlower : scheme.text.map Char.toLower = scheme.text := by
    rw [List.map_congr_left fun c hc => (scheme.chars c hc).2.1, List.map_id']
  unfold readScheme
  rw [htake, hdrop]
  cases htext : scheme.text with
  | nil => exact absurd htext scheme.nonempty
  | cons c cs =>
    have halpha := scheme.alpha c (by rw [htext]; rfl)
    rw [htext] at hlower
    simp only [halpha, if_true, hlower]

/-- Without an `@` there are no credentials. -/
theorem splitUserinfo_none {host : List Char} (h : ∀ c ∈ host, c ≠ '@') :
    splitUserinfo host = (none, host) := by
  have hback : ∀ c ∈ host.reverse, (c != '@') = true := by
    intro c hc
    simpa using h c (List.mem_reverse.mp hc)
  unfold splitUserinfo
  simp only [List.takeWhile_eq_self_iff.mpr hback, List.dropWhile_eq_nil_iff.mpr hback,
    List.reverse_reverse]

/-- The last `@` is where the credentials end. -/
theorem splitUserinfo_some (userinfo : List Char) {host : List Char}
    (h : ∀ c ∈ host, c ≠ '@') :
    splitUserinfo (userinfo ++ '@' :: host) = (some userinfo, host) := by
  have hback : ∀ c ∈ host.reverse, (c != '@') = true := by
    intro c hc
    simpa using h c (List.mem_reverse.mp hc)
  have hreverse : (userinfo ++ '@' :: host).reverse =
      host.reverse ++ '@' :: userinfo.reverse := by simp
  unfold splitUserinfo
  simp only [hreverse, List.takeWhile_append_of_pos hback, List.dropWhile_append_of_pos hback,
    List.takeWhile_cons_of_neg (p := (· != '@')) (a := '@') (by simp),
    List.dropWhile_cons_of_neg (p := (· != '@')) (a := '@') (by simp), List.append_nil,
    List.reverse_reverse]

/-- Characters that neither open nor close brackets, and no colon outside them, belong to the
host. -/
theorem splitPort_append (inBrackets : Bool) {s : List Char}
    (h : ∀ c ∈ s, c ≠ '[' ∧ c ≠ ']' ∧ (inBrackets = false → c ≠ ':')) (rest : List Char) :
    splitPort inBrackets (s ++ rest) =
      (s ++ (splitPort inBrackets rest).1, (splitPort inBrackets rest).2) := by
  induction s with
  | nil => rfl
  | cons c s ih =>
    obtain ⟨⟨hopen, hclose, hcolon⟩, hs⟩ := List.forall_mem_cons.mp h
    have hgo : (c == ':' && !inBrackets) = false := by
      cases inBrackets with
      | true => simp
      | false => simpa using hcolon rfl
    have hstay : (if c == '[' then true else if c == ']' then false else inBrackets) =
        inBrackets := by simp [hopen, hclose]
    rw [List.cons_append, splitPort, hgo]
    simp only [Bool.false_eq_true, if_false, hstay, ih hs, List.cons_append]

/-- The colons of a host are not the one of the port. -/
theorem splitPort_host (host : UrlHost) (rest : List Char) :
    splitPort false (host.written ++ rest) =
      (host.written ++ (splitPort false rest).1, (splitPort false rest).2) := by
  cases host with
  | name n =>
    apply splitPort_append
    intro c hc
    have hallowed := (n.allowed c hc).2
    simp only [forbiddenInHost, decide_eq_false_iff_not, List.mem_cons, List.not_mem_nil,
      or_false, not_or] at hallowed
    tauto
  | address a =>
    have hchars : ∀ c ∈ a.text, c ≠ '[' ∧ c ≠ ']' ∧ (true = false → c ≠ ':') := by
      intro c hc
      have hplain : ∀ c ∈ "0123456789abcdefABCDEF:.".toList, c ≠ '[' ∧ c ≠ ']' :=
        List.all_iff_forall_prop.mp (by decide)
      exact ⟨(hplain c (a.chars c hc)).1, (hplain c (a.chars c hc)).2, fun h => by cases h⟩
    have hinside := splitPort_append true hchars (']' :: rest)
    simp only [UrlHost.written, List.cons_append, List.append_assoc, List.nil_append]
    simp [splitPort, hinside]

namespace UrlParts

/-- The port as it is read: its digits, or nothing. -/
def portDigits (u : UrlParts) : List Char := (u.port.map (Nat.toDigits 10)).getD []

/-- A written port is split off its colon. -/
theorem splitPort_writtenPort (u : UrlParts) :
    splitPort false u.writtenPort = ([], u.port.map (Nat.toDigits 10)) := by
  unfold writtenPort
  cases u.port with
  | none => rfl
  | some n => simp [splitPort]

/-- The digits of a port are read back. -/
theorem readPort_portDigits (u : UrlParts) : readPort u.portDigits = some u.portDigits := by
  unfold portDigits
  cases hport : u.port with
  | none => rfl
  | some n => exact readPort_decimal (u.port_le n hport)

/-- An authority is split into its credentials and its host with the port. -/
theorem splitUserinfo_authority (e : UserinfoEncoding) (u : UrlParts) :
    splitUserinfo (u.writtenAuthority e) =
      (u.userinfo.map (writtenCredentials e), u.host.written ++ u.writtenPort) := by
  have hhost : ∀ c ∈ u.host.written ++ u.writtenPort, c ≠ '@' := by
    intro c hc
    rcases List.mem_append.mp hc with hc | hc
    · exact (u.host.written_chars.2 c hc).2.2.2.2
    · exact (u.writtenPort_chars c hc).2.2.2.2
  unfold writtenAuthority writtenUserinfo
  cases u.userinfo with
  | none => exact splitUserinfo_none hhost
  | some credentials =>
    rw [List.append_assoc]
    exact splitUserinfo_some _ hhost

/-- The two halves of written credentials: the escapes hide every colon but the one between
them. -/
theorem read_credentials (e : UserinfoEncoding) (u : UrlParts) :
    ((u.userinfo.map (writtenCredentials e)).getD []).takeWhile (· != ':') =
        e.encode u.username ∧
      (((u.userinfo.map (writtenCredentials e)).getD []).dropWhile (· != ':')).drop 1 =
        e.encode u.password := by
  unfold username password
  cases u.userinfo with
  | none => exact ⟨rfl, rfl⟩
  | some credentials =>
    obtain ⟨name, password⟩ := credentials
    have hname : ∀ c ∈ e.encode name, (c != ':') = true := by
      intro c hc
      simpa using (not_userinfoSet (e.encoded hc)).2.2.2.2.2
    cases password with
    | none =>
      simp only [Option.map_some, Option.getD_some, writtenCredentials,
        List.takeWhile_eq_self_iff.mpr hname, List.dropWhile_eq_nil_iff.mpr hname,
        Option.bind_some]
      exact ⟨trivial, rfl⟩
    | some password =>
      simp only [Option.map_some, Option.getD_some, writtenCredentials, Option.bind_some,
        List.takeWhile_append_of_pos hname, List.dropWhile_append_of_pos hname]
      simp

/-- **The authority and the path** come back as they were written, the host as `readHost`
takes it. -/
theorem readAuthority_write (ipv6 : List Char → Option (List Char)) (protocol : String)
    (e : UserinfoEncoding) (u : UrlParts) :
    readAuthority ipv6 protocol (u.writtenAuthority e ++ u.path.written) =
      (readHost ipv6 u.host.written).map fun hostname =>
        ⟨protocol, String.ofList (e.encode u.username), String.ofList (e.encode u.password),
          String.ofList hostname, String.ofList u.portDigits, String.ofList u.path.written⟩ := by
  have hauthority : ∀ c ∈ u.writtenAuthority e, (!endsAuthority c) = true := by
    intro c hc
    simp [(u.writtenAuthority_chars e c hc).2]
  have htakePath : u.path.written.takeWhile (!endsAuthority ·) = [] := by
    cases u.path <;> rfl
  have hdropPath : u.path.written.dropWhile (!endsAuthority ·) = u.path.written := by
    cases u.path <;> rfl
  have hpath : u.path.written.takeWhile (fun c => c != '?' && c != '#') = u.path.written := by
    apply List.takeWhile_eq_self_iff.mpr
    intro c hc
    simpa using (u.path.written_chars c hc).2
  have hreadPath : readPath u.path.written = u.path.written := by
    cases u.path with
    | absent => rfl
    | slash => rfl
    | number n => exact readPath_decimal n
  obtain ⟨hname, hpassword⟩ := read_credentials e u
  have hsplit : splitPort false (u.host.written ++ u.writtenPort) =
      (u.host.written, u.port.map (Nat.toDigits 10)) := by
    rw [splitPort_host, splitPort_writtenPort, List.append_nil]
  have hnonempty : u.host.written ++ u.writtenPort ≠ [] :=
    fun h => u.host.written_chars.1 (List.append_eq_nil_iff.mp h).1
  have hport : readPort ((u.port.map (Nat.toDigits 10)).getD []) = some u.portDigits :=
    u.readPort_portDigits
  unfold readAuthority
  simp only [List.takeWhile_append_of_pos hauthority, List.dropWhile_append_of_pos hauthority,
    htakePath, hdropPath, hpath, hreadPath, List.append_nil, splitUserinfo_authority, hsplit,
    hname, hpassword, e.reencode, hport, hnonempty, u.host.written_chars.1, and_false,
    false_and, if_false]
  cases readHost ipv6 u.host.written <;> rfl

/-- **A URL that is written and read** gives back its components, with the user information
escaped. -/
theorem newURL_write (special : String → Option Url) (ipv6 : List Char → Option (List Char))
    (e : UserinfoEncoding) (scheme : Scheme) (u : UrlParts) :
    newURL special ipv6 (String.ofList (u.write e scheme)) =
      (readHost ipv6 u.host.written).map fun hostname =>
        ⟨String.ofList scheme.text ++ ":", String.ofList (e.encode u.username),
          String.ofList (e.encode u.password), String.ofList hostname,
          String.ofList u.portDigits, String.ofList u.path.written⟩ := by
  have hvisible : ∀ c ∈ u.write e scheme, 0x20 < c.toNat := by
    intro c hc
    have hslash : 0x20 < ':'.toNat ∧ 0x20 < '/'.toNat := by decide
    rcases List.mem_append.mp hc with hc | hc
    · exact (scheme.chars c hc).2.2
    · rcases List.mem_cons.mp hc with rfl | hc
      · exact hslash.1
      · rcases List.mem_cons.mp hc with rfl | hc
        · exact hslash.2
        · rcases List.mem_cons.mp hc with rfl | hc
          · exact hslash.2
          · rcases List.mem_append.mp hc with hc | hc
            · exact (u.writtenAuthority_chars e c hc).1
            · exact (u.path.written_chars c hc).1
  have hscheme : readScheme (u.write e scheme) =
      some (scheme.text, '/' :: '/' :: (u.writtenAuthority e ++ u.path.written)) :=
    readScheme_write scheme _
  unfold newURL
  rw [String.toList_ofList, stripUrl_of_visible hvisible, hscheme]
  show (if scheme.text ∈ specialSchemes then _ else _) = _
  rw [if_neg scheme.plain]
  exact readAuthority_write ipv6 _ e u

end UrlParts

end Xnestjs.Model
