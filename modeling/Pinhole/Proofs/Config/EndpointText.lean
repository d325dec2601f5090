import Pinhole.Config.Address
import Pinhole.Proofs.Text.Cutting
import Pinhole.Proofs.Text.Numerals

/-!
# The texts of an endpoint

A setting is nothing, or an address and a port with a colon between them, each
of which may be left out.  These texts are described by relations that know
nothing of the order in which they are read; reading finds exactly the endpoint
that a text is related to, and fails on all other texts.
-/

namespace Pinhole

/-! ## Addresses -/

namespace Ipv4

/-- A number in at most three digits, without leading zeros. -/
structure OctetText (digits : List Char) (octet : UInt8) : Prop where
  denotes : Decimal.Denotes digits octet.toNat
  short : digits.length ≤ 3
  plain : digits.head? = some '0' → digits.length = 1

/-- Four octets with dots between them. -/
inductive DottedText : List Char → Ipv4 → Prop
  | dotted {a b c d ip} (ha : OctetText a ip.a) (hb : OctetText b ip.b)
      (hc : OctetText c ip.c) (hd : OctetText d ip.d) :
      DottedText (a ++ '.' :: (b ++ '.' :: (c ++ '.' :: d))) ip

theorem octet?_eq_some_iff {digits : List Char} {octet : UInt8} :
    octet? digits = some octet ↔ OctetText digits octet := by
  unfold octet?
  split
  case isTrue hrefused =>
    constructor
    · intro hread
      cases hread
    · rintro ⟨hdenotes, hshort, hplain⟩
      rcases hrefused with hnil | hlong | ⟨hzero, hmore⟩
      · exact absurd hnil hdenotes.nonempty
      · omega
      · exact absurd (hplain hzero) hmore
  case isFalse hallowed =>
    rw [not_or, not_or, not_and] at hallowed
    obtain ⟨hnonempty, hshort, hplain⟩ := hallowed
    have hread (value : Nat) : Decimal.readDigits 255 0 digits = .ok value ↔
        Decimal.Denotes digits value ∧ value ≤ 255 :=
      Decimal.readDigits_zero_eq_ok_iff hnonempty
    have hlt := octet.toNat_lt_size
    constructor
    · intro hoctet
      split at hoctet
      · next value hvalue =>
          obtain ⟨hdenotes, hle⟩ := (hread value).mp hvalue
          obtain rfl := Option.some.inj hoctet
          have htoNat : (UInt8.ofNat value).toNat = value :=
            UInt8.toNat_ofNat_of_lt' (Nat.lt_succ_of_le hle)
          refine ⟨htoNat.symm ▸ hdenotes, by omega, ?_⟩
          intro hzero
          by_contra hmore
          exact hplain hzero hmore
      · cases hoctet
    · rintro ⟨hdenotes, _, _⟩
      rw [(hread octet.toNat).mpr ⟨hdenotes, Nat.le_of_lt_succ hlt⟩]
      simp

theorem OctetText.notMem {digits : List Char} {octet : UInt8} {char : Char}
    (hoctet : OctetText digits octet) (hchar : ¬('0' ≤ char ∧ char ≤ '9')) :
    char ∉ digits :=
  fun hmem => hchar (hoctet.denotes.ascii char hmem)

theorem ofChars?_eq_some_iff {text : List Char} {ip : Ipv4} :
    ofChars? text = some ip ↔ DottedText text ip := by
  constructor
  · intro hread
    unfold ofChars? at hread
    split at hread
    · next a b c d hfields =>
        obtain ⟨_, ⟨hnil, _⟩ | ⟨_, rfl, hlater⟩⟩ := fields_eq_cons_iff.mp hfields
        · cases hnil
        obtain ⟨_, ⟨hnil, _⟩ | ⟨_, rfl, hlast⟩⟩ := fields_eq_cons_iff.mp hlater
        · cases hnil
        obtain ⟨_, _, rfl⟩ := fields_eq_pair_iff.mp hlast
        simp only [bind, Option.bind_eq_some_iff, octet?_eq_some_iff] at hread
        obtain ⟨a, ha, b, hb, c, hc, d, hd, hip⟩ := hread
        obtain rfl := Option.some.inj hip
        exact .dotted ha hb hc hd
    · cases hread
  · rintro ⟨ha, hb, hc, hd⟩
    have hdot : ¬('0' ≤ '.' ∧ '.' ≤ '9') := by decide
    rw [ofChars?, fields_append (ha.notMem hdot),
      fields_append (hb.notMem hdot), fields_append (hc.notMem hdot),
      fields_of_notMem (hd.notMem hdot)]
    simp only [octet?_eq_some_iff.mpr ha, octet?_eq_some_iff.mpr hb,
      octet?_eq_some_iff.mpr hc, octet?_eq_some_iff.mpr hd]
    rfl

theorem octetText_write (octet : UInt8) :
    OctetText (Decimal.write octet.toNat) octet where
  denotes := Decimal.denotes_write octet.toNat
  short := by
    have hlt := octet.toNat_lt_size
    rw [Decimal.write, Nat.length_toDigits_le_iff (by decide) (by decide)]
    exact hlt.trans (by decide)
  plain := by
    intro hzero
    have hnone : octet.toNat = 0 := by
      by_contra hpositive
      exact Decimal.head?_write_ne (Nat.pos_of_ne_zero hpositive) hzero
    rw [hnone]
    rfl

theorem dottedText_chars (ip : Ipv4) : DottedText ip.chars ip := by
  have hdotted := DottedText.dotted (octetText_write ip.a)
    (octetText_write ip.b) (octetText_write ip.c) (octetText_write ip.d)
  simpa [chars] using hdotted

theorem DottedText.notMem {text : List Char} {ip : Ipv4} {char : Char}
    (hdotted : DottedText text ip) (hdot : char ≠ '.')
    (hchar : ¬('0' ≤ char ∧ char ≤ '9')) : char ∉ text := by
  cases hdotted with
  | dotted ha hb hc hd =>
      simp [hdot, ha.notMem hchar, hb.notMem hchar, hc.notMem hchar,
        hd.notMem hchar]

end Ipv4

/-! ## Endpoints -/

namespace Endpoint

/-- The address part: nothing, or a dotted address. -/
inductive IpText (absent : Ipv4) : List Char → Ipv4 → Prop
  | omitted : IpText absent [] absent
  | dotted {text ip} (hdotted : Ipv4.DottedText text ip) :
      IpText absent text ip

/-- The port part: nothing, or a number with or without a plus sign. -/
inductive PortText : List Char → UInt16 → Prop
  | omitted : PortText [] 25565
  | unsigned {digits port} (hdenotes : Decimal.Denotes digits port.toNat) :
      PortText digits port
  | signed {digits port} (hdenotes : Decimal.Denotes digits port.toNat) :
      PortText ('+' :: digits) port

/-- A setting without white space around it: nothing, or both parts with a
colon between them. -/
inductive SettingText (absent : Ipv4) : List Char → Option Endpoint → Prop
  | unset : SettingText absent [] none
  | set {ip port endpoint} (hip : IpText absent ip endpoint.ip)
      (hport : PortText port endpoint.port) :
      SettingText absent (ip ++ ':' :: port) (some endpoint)

section Parts

variable {absent : Ipv4} {text : List Char}

theorem readIp_eq_ok_iff {ip : Ipv4} :
    readIp absent text = .ok ip ↔ IpText absent text ip := by
  unfold readIp
  split
  case isTrue hnil =>
    subst hnil
    rw [Except.ok.injEq]
    constructor
    · rintro rfl
      exact .omitted
    · rintro (_ | hdotted)
      · rfl
      · generalize htext : ([] : List Char) = text at hdotted
        cases hdotted
        simp at htext
  case isFalse hnonempty =>
    constructor
    · intro hread
      split at hread
      · next other hother =>
          obtain rfl := Except.ok.inj hread
          exact .dotted (Ipv4.ofChars?_eq_some_iff.mp hother)
      · cases hread
    · rintro (_ | hdotted)
      · exact absurd rfl hnonempty
      · rw [Ipv4.ofChars?_eq_some_iff.mpr hdotted]

theorem readPort_eq_ok_iff {port : UInt16} :
    readPort text = .ok port ↔ PortText text port := by
  unfold readPort
  split
  case isTrue hnil =>
    subst hnil
    rw [Except.ok.injEq]
    constructor
    · rintro rfl
      exact .omitted
    · rintro (_ | hdenotes)
      · rfl
      · exact absurd rfl hdenotes.nonempty
  case isFalse hnonempty =>
    constructor
    · intro hread
      split at hread
      · next number hnumber =>
          obtain rfl := Except.ok.inj hread
          obtain ⟨digits, htext, hdenotes, hle⟩ :=
            Decimal.read_eq_ok_iff.mp hnumber
          have htoNat : (UInt16.ofNat number).toNat = number :=
            UInt16.toNat_ofNat_of_lt' (Nat.lt_succ_of_le hle)
          rw [← htoNat] at hdenotes
          rcases htext with rfl | rfl
          · exact .unsigned hdenotes
          · exact .signed hdenotes
      · cases hread
    · intro hport
      have hnumber : Decimal.read 65535 text = .ok port.toNat := by
        rw [Decimal.read_eq_ok_iff]
        have hle := Nat.le_of_lt_succ port.toNat_lt_size
        cases hport with
        | omitted => exact absurd rfl hnonempty
        | unsigned hdenotes => exact ⟨_, .inl rfl, hdenotes, hle⟩
        | signed hdenotes => exact ⟨_, .inr rfl, hdenotes, hle⟩
      rw [hnumber]
      simp

theorem IpText.colon_notMem {ip : Ipv4} (hip : IpText absent text ip) :
    ':' ∉ text := by
  cases hip with
  | omitted => exact List.not_mem_nil
  | dotted hdotted => exact hdotted.notMem (by decide) (by decide)

theorem PortText.colon_notMem {port : UInt16} (hport : PortText text port) :
    ':' ∉ text := by
  have hcolon {digits number} (hdenotes : Decimal.Denotes digits number) :
      ':' ∉ digits :=
    fun hmem => absurd (hdenotes.ascii ':' hmem) (by decide)
  cases hport with
  | omitted => exact List.not_mem_nil
  | unsigned hdenotes => exact hcolon hdenotes
  | signed hdenotes => simp [hcolon hdenotes]

end Parts

section Setting

variable {absent : Ipv4} {text : String} {core ip port : List Char}

theorem readSetting_of_nil (htrim : Unicode.trim text.toList = []) :
    readSetting absent text = .ok none := by
  rw [readSetting, htrim]
  rfl

theorem readSetting_of_count (htrim : Unicode.trim text.toList = core)
    (hnonempty : core ≠ []) (hcount : core.count ':' ≠ 1) :
    readSetting absent text = .error (.malformed (String.ofList core)) := by
  rw [readSetting, htrim, if_neg hnonempty]
  split
  · next ip port hfields =>
      have hlength := length_fields ':' core
      rw [hfields, List.length_cons, List.length_singleton] at hlength
      omega
  · rfl

theorem readSetting_of_pair
    (htrim : Unicode.trim text.toList = ip ++ ':' :: port)
    (hip : ':' ∉ ip) (hport : ':' ∉ port) :
    readSetting absent text = (readIp absent ip).bind fun ip =>
      (readPort port).map fun port => some ⟨ip, port⟩ := by
  have hfields := fields_eq_pair_iff.mpr ⟨hip, hport, rfl⟩
  have hnonempty : ip ++ ':' :: port ≠ [] := by simp
  rw [readSetting, htrim, if_neg hnonempty, hfields]
  rfl

theorem exists_pair_of_count (hcount : core.count ':' = 1) :
    ∃ ip port, core = ip ++ ':' :: port ∧ ':' ∉ ip ∧ ':' ∉ port := by
  have hlength := length_fields ':' core
  rw [hcount] at hlength
  obtain ⟨ip, port, hfields⟩ := List.length_eq_two.mp hlength
  obtain ⟨hip, hport, hcore⟩ := fields_eq_pair_iff.mp hfields
  exact ⟨ip, port, hcore, hip, hport⟩

theorem readSetting_ne_malformed
    (htrim : Unicode.trim text.toList = ip ++ ':' :: port)
    (hip : ':' ∉ ip) (hport : ':' ∉ port) (told : String) :
    readSetting absent text ≠ .error (.malformed told) := by
  rw [readSetting_of_pair htrim hip hport]
  cases hreadIp : readIp absent ip with
  | error error =>
      intro hsame
      obtain rfl := Except.error.inj hsame
      unfold readIp at hreadIp
      split at hreadIp
      · cases hreadIp
      · split at hreadIp <;> cases hreadIp
  | ok address =>
      cases hreadPort : readPort port with
      | error error =>
          intro hsame
          obtain rfl := Except.error.inj hsame
          unfold readPort at hreadPort
          split at hreadPort
          · cases hreadPort
          · split at hreadPort <;> cases hreadPort
      | ok number =>
          intro hsame
          cases hsame

theorem readSetting_of_settingText {setting? : Option Endpoint}
    (htrim : Unicode.trim text.toList = core)
    (hsetting : SettingText absent core setting?) :
    readSetting absent text = .ok setting? := by
  cases hsetting with
  | unset => exact readSetting_of_nil htrim
  | set hip hport =>
      rw [readSetting_of_pair htrim hip.colon_notMem hport.colon_notMem,
        readIp_eq_ok_iff.mpr hip, readPort_eq_ok_iff.mpr hport]
      rfl

theorem settingText_of_readSetting {setting? : Option Endpoint}
    (htrim : Unicode.trim text.toList = core)
    (hread : readSetting absent text = .ok setting?) :
    SettingText absent core setting? := by
  by_cases hnil : core = []
  · subst hnil
    rw [readSetting_of_nil htrim, Except.ok.injEq] at hread
    subst hread
    exact .unset
  · by_cases hcount : core.count ':' = 1
    · obtain ⟨ip, port, rfl, hip, hport⟩ := exists_pair_of_count hcount
      rw [readSetting_of_pair htrim hip hport] at hread
      cases hreadIp : readIp absent ip with
      | error error =>
          rw [hreadIp] at hread
          cases hread
      | ok address =>
          cases hreadPort : readPort port with
          | error error =>
              rw [hreadIp, hreadPort] at hread
              cases hread
          | ok number =>
              rw [hreadIp, hreadPort] at hread
              obtain rfl := Except.ok.inj hread
              exact .set (readIp_eq_ok_iff.mp hreadIp)
                (readPort_eq_ok_iff.mp hreadPort)
    · rw [readSetting_of_count htrim hnil hcount] at hread
      cases hread

/-- The default address is only used for an address part that was left out. -/
theorem readSetting_congr (htrim : Unicode.trim text.toList = core)
    (hhead : core.head? ≠ some ':') (other : Ipv4) :
    readSetting other text = readSetting absent text := by
  by_cases hnil : core = []
  · rw [hnil] at htrim
    rw [readSetting_of_nil htrim, readSetting_of_nil htrim]
  · by_cases hcount : core.count ':' = 1
    · obtain ⟨ip, port, rfl, hip, hport⟩ := exists_pair_of_count hcount
      have hnonempty : ip ≠ [] := by
        rintro rfl
        exact hhead rfl
      have hsame : readIp other ip = readIp absent ip := by
        rw [readIp, readIp, if_neg hnonempty, if_neg hnonempty]
      rw [readSetting_of_pair htrim hip hport,
        readSetting_of_pair htrim hip hport, hsame]
    · rw [readSetting_of_count htrim hnil hcount,
        readSetting_of_count htrim hnil hcount]

theorem settingText_chars (endpoint : Endpoint) :
    SettingText absent endpoint.chars (some endpoint) :=
  .set (.dotted (Ipv4.dottedText_chars endpoint.ip))
    (.unsigned (Decimal.denotes_write endpoint.port.toNat))

theorem not_digit_of_isWhiteSpace {char : Char}
    (hwhite : Unicode.isWhiteSpace char = true) :
    ¬('0' ≤ char ∧ char ≤ '9') := by
  rintro ⟨hlow, hhigh⟩
  have hlow : 48 ≤ char.toNat := hlow
  have hhigh : char.toNat ≤ 57 := hhigh
  simp [Unicode.isWhiteSpace] at hwhite
  omega

theorem isWhiteSpace_of_mem_chars {endpoint : Endpoint} {char : Char}
    (hmem : char ∈ endpoint.chars) : Unicode.isWhiteSpace char = false := by
  by_contra hwhite
  rw [Bool.not_eq_false] at hwhite
  have hdigit := not_digit_of_isWhiteSpace hwhite
  rw [chars, List.mem_append, List.mem_cons] at hmem
  rcases hmem with hip | rfl | hport
  · refine (Ipv4.dottedText_chars endpoint.ip).notMem ?_ hdigit hip
    rintro rfl
    exact absurd hwhite (by decide)
  · exact absurd hwhite (by decide)
  · exact hdigit ((Decimal.denotes_write _).ascii char hport)

/-- A printed endpoint is read back, whatever white space is around it. -/
theorem readSetting_text (absent : Ipv4) (endpoint : Endpoint)
    {before after : String}
    (hwhite : ∀ char ∈ before.toList ++ after.toList,
      Unicode.isWhiteSpace char = true) :
    readSetting absent (before ++ endpoint.text ++ after) =
      .ok (some endpoint) := by
  refine readSetting_of_settingText ?_ (settingText_chars endpoint)
  apply Unicode.Stripped.trim_eq
  refine ⟨before.toList, after.toList, by simp [text], hwhite, ?_, ?_⟩
  · exact fun char hhead =>
      isWhiteSpace_of_mem_chars (List.mem_of_head? hhead)
  · exact fun char hlast =>
      isWhiteSpace_of_mem_chars (List.mem_of_getLast? hlast)

/-- What reading a text comes to that is `core` without the white space around
it. -/
structure Reads (absent : Ipv4) (text : String) (core : List Char) : Prop where
  ok : ∀ setting?, readSetting absent text = .ok setting? ↔
    SettingText absent core setting?
  unset : readSetting absent text = .ok none ↔ core = []
  failed : (∃ error, readSetting absent text = .error error) ↔
    ∀ setting?, ¬SettingText absent core setting?
  malformed :
    readSetting absent text = .error (.malformed (String.ofList core)) ↔
      core ≠ [] ∧ core.count ':' ≠ 1
  default : core.head? ≠ some ':' →
    ∀ other, readSetting other text = readSetting absent text

theorem reads_trim (absent : Ipv4) (text : String) :
    Reads absent text (Unicode.trim text.toList) := by
  generalize htrim : Unicode.trim text.toList = core
  have hok (setting? : Option Endpoint) :
      readSetting absent text = .ok setting? ↔
        SettingText absent core setting? :=
    ⟨settingText_of_readSetting htrim, readSetting_of_settingText htrim⟩
  constructor
  case ok => exact hok
  case unset =>
    constructor
    · intro hread
      cases (hok none).mp hread
      rfl
    · rintro rfl
      exact readSetting_of_nil htrim
  case failed =>
    constructor
    · rintro ⟨error, hread⟩ setting? hsetting
      rw [(hok setting?).mpr hsetting] at hread
      cases hread
    · intro hnone
      cases hread : readSetting absent text with
      | error error => exact ⟨error, rfl⟩
      | ok setting? => exact absurd ((hok setting?).mp hread) (hnone setting?)
  case malformed =>
    constructor
    · intro hread
      constructor
      · rintro rfl
        rw [readSetting_of_nil htrim] at hread
        cases hread
      · intro hcount
        obtain ⟨ip, port, rfl, hip, hport⟩ := exists_pair_of_count hcount
        exact readSetting_ne_malformed htrim hip hport _ hread
    · rintro ⟨hnonempty, hcount⟩
      exact readSetting_of_count htrim hnonempty hcount
  case default => exact readSetting_congr htrim

/-- Reading finds the setting that a text stands for, if there is one, and
fails otherwise. -/
theorem readSetting_exact (absent : Ipv4) :
    (∀ text : String, ∃ core,
      (∀ other, Unicode.Stripped text.toList other ↔ core = other) ∧
        Reads absent text core) ∧
      ∀ (endpoint : Endpoint) (before after : String),
        (∀ char ∈ before.toList ++ after.toList,
          Unicode.isWhiteSpace char = true) →
        readSetting absent (before ++ endpoint.text ++ after) =
          .ok (some endpoint) := by
  constructor
  · intro text
    exact ⟨Unicode.trim text.toList, fun _ => Unicode.stripped_iff,
      reads_trim absent text⟩
  · intro endpoint before after hwhite
    exact readSetting_text absent endpoint hwhite

example : readSetting .loopback "\t:+0080\u3000" =
    .ok (some ⟨.loopback, 80⟩) := by
  decide +kernel

end Setting

end Endpoint

end Pinhole
