import Mathlib.Data.List.TakeWhile
import StatusRegistry.Proofs.Steps
import StatusRegistry.Proofs.Url.Host

/-!
# Authorities read back

An authority that was read is read again from its text.

* `readAuthority_eq`: reading an authority, one part after another;
* `Authority.Sound`: what an authority is that was read (`readAuthority_sound`);
* `Authority.body`: its text behind the two slashes, and which characters it has
  (`mem_body`);
* `readAuthority_body`: an authority with a host is read back from its text.
-/

set_option autoImplicit false

namespace StatusRegistry.Url

open Text

/-! ## One part after another -/

/-- The name and the password in front of a host, and what stands behind them. -/
def splitCredentials (atEnd : Bool) (cs : List Char) :
    Except Fault ((List Char × List Char) × List Char) :=
  match splitLast '@' cs with
  | none => .ok (([], []), cs)
  | some (credentials, back) =>
    if credentials.isEmpty && back.isEmpty && !atEnd then .error .emptyHost
    else .ok (readCredentials credentials, back)

/-- The port that a kind of scheme leaves out. -/
def Kind.usualPort : Kind → Option Nat
  | .network port => some port
  | _ => none

/-- Reads the host for a kind of scheme. -/
def Kind.readHost [DomainNames] (kind : Kind) (cs : List Char) : Except Fault Host :=
  if kind.special && cs.isEmpty then .error .emptyHost
  else if kind.special then Url.readHost cs else readOpaqueHost cs

/-- Reads the port behind a host. -/
def Kind.readPort (kind : Kind) (host : Host) (cs : List Char) :
    Except Fault (Option Nat × List Char) :=
  if host = .empty && !cs.isEmpty then .error .emptyHost else Url.readPort kind.usualPort cs

/-- Refuses a name or a password without a host. -/
def Authority.check (a : Authority) : Except Fault Authority :=
  if a.host = .empty && !a.credentials.isEmpty then .error .emptyHost else .ok a

theorem ite_bind {ε α β : Type} {c : Prop} [Decidable c] (x y : Except ε α) (f : α → Except ε β) :
    (if c then x >>= f else y >>= f) = ((if c then x else y) >>= f) := by
  split <;> rfl

theorem readAuthority_eq [DomainNames] (kind : Kind) (atEnd : Bool) (cs : List Char) :
    readAuthority kind atEnd cs = do
      let parts ← splitCredentials atEnd cs
      let host ← kind.readHost (splitHost false parts.2).1
      let behind ← kind.readPort host (splitHost false parts.2).2
      let a ← Authority.check ⟨parts.1.1, parts.1.2, host, behind.1⟩
      return (a, behind.2) := by
  -- What stands behind the credentials is read in the same way with and without them.
  have hserver : ∀ (usual : Option Nat), usual = kind.usualPort →
      ∀ username password back : List Char, (do
      let parts := splitHost false back
      if kind.special && parts.1.isEmpty then throw .emptyHost
      let host ← if kind.special then Url.readHost parts.1 else readOpaqueHost parts.1
      if host = .empty && !parts.2.isEmpty then throw .emptyHost
      let behind ← Url.readPort usual parts.2
      let a : Authority := ⟨username, password, host, behind.1⟩
      if host = .empty && !a.credentials.isEmpty then throw .emptyHost
      return (a, behind.2)) = (do
      let host ← kind.readHost (splitHost false back).1
      let behind ← kind.readPort host (splitHost false back).2
      let a ← Authority.check ⟨username, password, host, behind.1⟩
      return (a, behind.2) : Except Fault (Authority × List Char)) := by
    rintro usual rfl username password back
    unfold Kind.readHost Kind.readPort Authority.check
    generalize splitHost false back = parts
    obtain ⟨hostChars, rest⟩ := parts
    dsimp only
    by_cases hempty : (kind.special && hostChars.isEmpty) = true
    · rw [if_pos hempty, if_pos hempty]
      rfl
    · rw [if_neg hempty, if_neg hempty, ite_bind]
      generalize (if kind.special = true then Url.readHost hostChars
        else readOpaqueHost hostChars) = read
      cases read with
      | error e => rfl
      | ok host =>
        simp only [ok_bind]
        by_cases hrest : (decide (host = .empty) && !rest.isEmpty) = true
        · rw [if_pos hrest, if_pos hrest]
          rfl
        · rw [if_neg hrest, if_neg hrest]
          generalize Url.readPort kind.usualPort rest = read
          cases read with
          | error e => rfl
          | ok parts =>
            simp only [ok_bind]
            split <;> rfl
  unfold readAuthority splitCredentials
  cases splitLast '@' cs with
  | none => exact hserver _ (by cases kind <;> rfl) [] [] cs
  | some parts =>
    obtain ⟨credentials, back⟩ := parts
    dsimp only
    split
    · rfl
    · exact hserver _ (by cases kind <;> rfl) _ _ back

/-! ## What is read -/

/-- What an authority is that was read for a kind of scheme. -/
structure Authority.Sound (kind : Kind) (a : Authority) : Prop where
  username : ∀ c ∈ a.username, Part.userinfo.keeps c = true
  password : ∀ c ∈ a.password, Part.userinfo.keeps c = true
  host : kind.special = true ∧ a.host.Known ∨
    kind.special = false ∧ (a.host = .empty ∨ a.host.Unknown)
  port : ∀ n, a.port = some n → n ≤ 65535 ∧ kind.usualPort ≠ some n
  /-- Without a host there is nothing else. -/
  alone : a.host = .empty → a.credentials = [] ∧ a.port = none

theorem splitCredentials_keeps {atEnd : Bool} {cs back : List Char}
    {credentials : List Char × List Char}
    (h : splitCredentials atEnd cs = .ok (credentials, back)) :
    (∀ c ∈ credentials.1, Part.userinfo.keeps c = true) ∧
      ∀ c ∈ credentials.2, Part.userinfo.keeps c = true := by
  unfold splitCredentials at h
  split at h
  · cases h
    exact ⟨nofun, nofun⟩
  · split at h
    · cases h
    · cases h
      exact ⟨fun _ hc => keeps_of_mem_encode hc, fun _ hc => keeps_of_mem_encode hc⟩

theorem Kind.readHost_sound [DomainNames] {kind : Kind} {cs : List Char} {host : Host}
    (h : kind.readHost cs = .ok host) : kind.special = true ∧ host.Known ∨
      kind.special = false ∧ (host = .empty ∨ host.Unknown) := by
  unfold Kind.readHost at h
  split at h
  · cases h
  · split at h
    · rename_i hspecial
      exact .inl ⟨hspecial, readHost_known h⟩
    · rename_i hspecial
      rcases readOpaqueHost_cases h with ⟨-, rfl⟩ | ⟨-, hunknown⟩
      · exact .inr ⟨Bool.not_eq_true _ ▸ hspecial, .inl rfl⟩
      · exact .inr ⟨Bool.not_eq_true _ ▸ hspecial, .inr hunknown⟩

theorem readPort_sound {usual port : Option Nat} {cs rest : List Char}
    (h : readPort usual cs = .ok (port, rest)) :
    (∀ n, port = some n → n ≤ 65535 ∧ usual ≠ some n) ∧ (cs = [] → port = none) := by
  unfold readPort at h
  split at h
  · dsimp only at h
    split at h
    · cases h
    · rename_i hrange
      split at h
      · cases h
        exact ⟨nofun, nofun⟩
      · rename_i hkept
        cases h
        simp only [Bool.or_eq_true, decide_eq_true_eq, not_or] at hkept
        refine ⟨?_, nofun⟩
        rintro n ⟨⟩
        exact ⟨by omega, hkept.2⟩
  · cases h
    exact ⟨nofun, fun _ => rfl⟩

/-- **Every authority that is read is sound.** -/
theorem readAuthority_sound [DomainNames] {kind : Kind} {atEnd : Bool} {cs extra : List Char}
    {a : Authority} (h : readAuthority kind atEnd cs = .ok (a, extra)) : a.Sound kind := by
  rw [readAuthority_eq] at h
  obtain ⟨⟨credentials, back⟩, hcredentials, h⟩ := bind_eq_ok_iff.mp h
  obtain ⟨host, hhost, h⟩ := bind_eq_ok_iff.mp h
  obtain ⟨⟨port, rest⟩, hport, h⟩ := bind_eq_ok_iff.mp h
  obtain ⟨checked, hchecked, h⟩ := bind_eq_ok_iff.mp h
  unfold Authority.check at hchecked
  unfold Kind.readPort at hport
  obtain ⟨husername, hpassword⟩ := splitCredentials_keeps hcredentials
  split at hchecked
  · cases hchecked
  · rename_i hcheck
    split at hport
    · cases hport
    · rename_i hbehind
      obtain ⟨hrange, hnone⟩ := readPort_sound hport
      cases hchecked
      cases h
      refine ⟨husername, hpassword, Kind.readHost_sound hhost, hrange, ?_⟩
      intro hempty
      change host = .empty at hempty
      simp only [hempty, decide_true, Bool.true_and, Bool.not_eq_true', Bool.not_eq_false,
        List.isEmpty_iff] at hcheck hbehind ⊢
      exact ⟨hcheck, hnone hbehind⟩

/-! ## Text -/

/-- The text of the port. -/
def Authority.portChars (a : Authority) : List Char :=
  match a.port with
  | some n => ':' :: decimal n
  | none => []

/-- The text of an authority behind the two slashes. -/
def Authority.body (a : Authority) : List Char := a.credentials ++ (a.host.chars ++ a.portChars)

theorem Authority.chars_eq (a : Authority) : a.chars = '/' :: '/' :: a.body := by
  obtain ⟨username, password, host, port⟩ := a
  cases port with
  | none => simp [chars, body, portChars]
  | some n => simp [chars, body, portChars]

/-- A character that stands in an authority: visible, and neither a slash nor a backslash. -/
def InAuthority (c : Char) : Prop := Plain c ∧ c ≠ '/' ∧ c ≠ '\\'

instance (c : Char) : Decidable (InAuthority c) := inferInstanceAs (Decidable (_ ∧ _ ∧ _))

theorem inAuthority_of_userinfo {c : Char} (h : Part.userinfo.keeps c = true) :
    InAuthority c ∧ c ≠ '@' ∧ c ≠ ':' :=
  forall_keeps (P := fun c => InAuthority c ∧ c ≠ '@' ∧ c ≠ ':') (by decide) h

theorem inAuthority_of_isDigit {c : Char} (h : isDigit c = true) : InAuthority c ∧ c ≠ '@' :=
  forall_isDigit (P := fun c => InAuthority c ∧ c ≠ '@') (by decide) h

theorem mem_credentials {kind : Kind} {a : Authority} (h : a.Sound kind) {c : Char}
    (hc : c ∈ a.credentials) : InAuthority c := by
  unfold Authority.credentials at hc
  dsimp only at hc
  split at hc
  · cases hc
  · simp only [List.mem_append, List.mem_singleton] at hc
    rcases hc with (hc | hc) | rfl
    · exact (inAuthority_of_userinfo (h.username c hc)).1
    · split at hc
      · cases hc
      · rcases List.mem_cons.mp hc with rfl | hc
        · decide
        · exact (inAuthority_of_userinfo (h.password c hc)).1
    · decide

theorem mem_portChars {a : Authority} {c : Char} (hc : c ∈ a.portChars) :
    InAuthority c ∧ c ≠ '@' := by
  unfold Authority.portChars at hc
  split at hc
  · rcases List.mem_cons.mp hc with rfl | hc
    · decide
    · exact inAuthority_of_isDigit (isDigit_of_mem_decimal hc)
  · cases hc

/-- A character of the text of an address of 128 bits. -/
theorem mem_ipv6Text {pieces : List Nat} {c : Char} (h : c ∈ ipv6Text pieces) :
    c = ':' ∨ ∃ p, c ∈ hex p := by
  unfold ipv6Text at h
  dsimp only at h
  split at h
  · exact mem_joinPieces h
  · simp only [List.mem_append, List.mem_cons] at h
    rcases h with h | h | h | h
    · exact mem_joinPieces h
    · exact .inl h
    · exact .inl h
    · exact mem_joinPieces h

/-- A host has a text, and it tells where it ends: by brackets, or by having no colon. -/
inductive HostText : List Char → Prop
  | bracketed {cs : List Char} (h : ∀ c ∈ cs, InAuthority c ∧ c ≠ '@' ∧ c ≠ '[' ∧ c ≠ ']') :
      HostText ('[' :: cs ++ [']'])
  | plain {cs : List Char} (ne_nil : cs ≠ [])
      (h : ∀ c ∈ cs, InAuthority c ∧ c ≠ '@' ∧ c ≠ '[' ∧ c ≠ ']' ∧ c ≠ ':') : HostText cs

theorem hostText_ipv6 (pieces : List Nat) : HostText (Host.ipv6 pieces).chars := by
  refine .bracketed fun c hc => ?_
  rcases mem_ipv6Text hc with rfl | ⟨p, hp⟩
  · decide
  · exact forall_mem_hex (P := fun c => InAuthority c ∧ c ≠ '@' ∧ c ≠ '[' ∧ c ≠ ']') (by decide) hp

theorem inAuthority_of_allowed {c : Char} (h : forbiddenInDomain c = false) :
    InAuthority c ∧ c ≠ '@' ∧ c ≠ '[' ∧ c ≠ ']' ∧ c ≠ ':' :=
  ⟨⟨plain_of_allowed h, ne_of_allowed h (by decide), ne_of_allowed h (by decide)⟩,
    ne_of_allowed h (by decide), ne_of_allowed h (by decide), ne_of_allowed h (by decide),
    ne_of_allowed h (by decide)⟩

theorem Host.Known.text {host : Host} (h : host.Known) : HostText host.chars := by
  cases h with
  | domain h => exact .plain h.ne_nil fun c hc => inAuthority_of_allowed (h.allowed c hc)
  | @ipv4 address h =>
    refine .plain (by simp [Host.chars, ipv4Text]) fun c hc => ?_
    rcases mem_ipv4Text hc with hdigit | rfl
    · exact inAuthority_of_allowed (allowed_of_isDigit hdigit)
    · decide
  | ipv6 h => exact hostText_ipv6 _

theorem Host.Unknown.text {host : Host} (h : host.Unknown) : HostText host.chars := by
  cases h with
  | ipv6 h => exact hostText_ipv6 _
  | opaqueHost h =>
    refine .plain h.ne_nil fun c hc => ?_
    exact forall_keeps (P := fun c => forbiddenInHost c = false →
      InAuthority c ∧ c ≠ '@' ∧ c ≠ '[' ∧ c ≠ ']' ∧ c ≠ ':') (by decide) (h.keeps c hc)
      (h.allowed c hc)

theorem HostText.mem {cs : List Char} (h : HostText cs) {c : Char} (hc : c ∈ cs) :
    InAuthority c ∧ c ≠ '@' := by
  cases h with
  | bracketed h =>
    simp only [List.cons_append, List.mem_cons, List.mem_append, List.not_mem_nil, or_false] at hc
    rcases hc with rfl | hc | rfl
    · decide
    · exact ⟨(h c hc).1, (h c hc).2.1⟩
    · decide
  | plain _ h => exact ⟨(h c hc).1, (h c hc).2.1⟩

theorem HostText.ne_nil {cs : List Char} (h : HostText cs) : cs ≠ [] := by
  cases h with
  | bracketed => simp
  | plain ne_nil => exact ne_nil

/-! ## The text read back -/

theorem splitLast_eq_none {separator : Char} {cs : List Char} (h : separator ∉ cs) :
    splitLast separator cs = none := by
  induction cs with
  | nil => rfl
  | cons c cs ih =>
    have hc : c ≠ separator := fun heq => h (heq ▸ List.mem_cons_self ..)
    rw [splitLast, ih fun hmem => h (List.mem_cons_of_mem c hmem)]
    exact if_neg hc

theorem splitLast_append {separator : Char} {back : List Char} (h : separator ∉ back)
    (front : List Char) :
    splitLast separator (front ++ separator :: back) = some (front, back) := by
  induction front with
  | nil =>
    rw [List.nil_append, splitLast, splitLast_eq_none h]
    exact if_pos rfl
  | cons c front ih => rw [List.cons_append, splitLast, ih]

/-- What stands behind a host: nothing, or a colon and more. -/
def BehindHost (cs : List Char) : Prop := cs = [] ∨ ∃ rest, cs = ':' :: rest

theorem splitHost_behind {cs : List Char} (h : BehindHost cs) : splitHost false cs = ([], cs) := by
  rcases h with rfl | ⟨rest, rfl⟩
  · rfl
  · rfl

theorem splitHost_plain {cs back : List Char} (h : ∀ c ∈ cs, c ≠ '[' ∧ c ≠ ']' ∧ c ≠ ':')
    (hback : BehindHost back) : splitHost false (cs ++ back) = (cs, back) := by
  induction cs with
  | nil => exact splitHost_behind hback
  | cons c cs ih =>
    obtain ⟨hopen, hclose, hcolon⟩ := h c (List.mem_cons_self ..)
    have hcs := ih fun d hd => h d (List.mem_cons_of_mem c hd)
    rw [List.cons_append, splitHost, if_neg (fun hc => hcolon hc.1)]
    simp only [if_neg hopen, if_neg hclose, hcs]

theorem splitHost_inside {cs back : List Char} (h : ∀ c ∈ cs, c ≠ '[' ∧ c ≠ ']')
    (hback : BehindHost back) : splitHost true (cs ++ ']' :: back) = (cs ++ [']'], back) := by
  induction cs with
  | nil =>
    rw [List.nil_append, splitHost, if_neg (by simp)]
    simp [splitHost_behind hback]
  | cons c cs ih =>
    obtain ⟨hopen, hclose⟩ := h c (List.mem_cons_self ..)
    have hcs := ih fun d hd => h d (List.mem_cons_of_mem c hd)
    rw [List.cons_append, splitHost, if_neg (by simp)]
    simp only [if_neg hopen, if_neg hclose, hcs, List.cons_append]

/-- The text of a host ends where the host does. -/
theorem HostText.splitHost {cs back : List Char} (h : HostText cs) (hback : BehindHost back) :
    splitHost false (cs ++ back) = (cs, back) := by
  cases h with
  | @bracketed cs h =>
    have hinside := splitHost_inside (fun c hc => (h c hc).2.2) hback
    have hcs : '[' :: cs ++ [']'] ++ back = '[' :: (cs ++ ']' :: back) := by simp
    rw [hcs, Url.splitHost, if_neg (by simp)]
    simp only [if_pos, hinside, List.cons_append]
  | plain _ h => exact splitHost_plain (fun c hc => (h c hc).2.2) hback

theorem behindHost_portChars (a : Authority) : BehindHost a.portChars := by
  unfold Authority.portChars
  split
  · exact .inr ⟨_, rfl⟩
  · exact .inl rfl

/-- A name and a password are read back from their text. -/
theorem readCredentials_chars {username password : List Char}
    (husername : ∀ c ∈ username, Part.userinfo.keeps c = true)
    (hpassword : ∀ c ∈ password, Part.userinfo.keeps c = true) :
    readCredentials (username ++ if password.isEmpty then [] else ':' :: password) =
      (username, password) := by
  have hcolon : ∀ c ∈ username, (c != ':') = true := by
    intro c hc
    simpa using (inAuthority_of_userinfo (husername c hc)).2.2
  unfold readCredentials
  rw [List.takeWhile_append_of_pos hcolon, List.dropWhile_append_of_pos hcolon]
  cases password with
  | nil =>
    show (encode .userinfo (username ++ []), encode .userinfo []) = _
    rw [List.append_nil, encode_kept husername]
    rfl
  | cons c cs =>
    show (encode .userinfo (username ++ []), encode .userinfo (c :: cs)) = _
    rw [List.append_nil, encode_kept husername, encode_kept hpassword]

theorem splitCredentials_body {kind : Kind} {a : Authority} (h : a.Sound kind)
    (htext : HostText a.host.chars) (atEnd : Bool) :
    splitCredentials atEnd a.body =
      .ok ((a.username, a.password), a.host.chars ++ a.portChars) := by
  have hback : '@' ∉ a.host.chars ++ a.portChars := by
    intro hmem
    rcases List.mem_append.mp hmem with hmem | hmem
    · exact (htext.mem hmem).2 rfl
    · exact (mem_portChars hmem).2 rfl
  have hne : (a.host.chars ++ a.portChars).isEmpty = false := by
    simp [htext.ne_nil]
  unfold splitCredentials Authority.body Authority.credentials
  by_cases hempty : (a.username.isEmpty && a.password.isEmpty) = true
  · dsimp only
    rw [if_pos hempty, List.nil_append, splitLast_eq_none hback]
    simp only [Bool.and_eq_true, List.isEmpty_iff] at hempty
    rw [hempty.1, hempty.2]
  · dsimp only
    rw [if_neg hempty, List.append_assoc, List.singleton_append, splitLast_append hback]
    dsimp only
    rw [hne, Bool.and_false, Bool.false_and, if_neg Bool.false_ne_true,
      readCredentials_chars h.username h.password]

theorem readPort_portChars {kind : Kind} {a : Authority} (h : a.Sound kind) :
    readPort kind.usualPort a.portChars = .ok (a.port, []) := by
  obtain ⟨username, password, host, port⟩ := a
  cases port with
  | none => rfl
  | some n =>
    obtain ⟨hle, husual⟩ := h.port n rfl
    have hdigits : ∀ c ∈ decimal n, isDigit c = true := fun _ => isDigit_of_mem_decimal
    have htake : (decimal n).takeWhile isDigit = decimal n := List.takeWhile_eq_self_iff.mpr hdigits
    have hdrop : (decimal n).dropWhile isDigit = [] :=
      List.dropWhile_eq_nil_iff.mpr hdigits
    show readPort _ (':' :: decimal n) = _
    unfold readPort
    simp only [htake, hdrop, value?_decimal, Option.getD_some]
    rw [if_neg (by simp; omega), if_neg (by simp [decimal_ne_nil, husual])]

/-- **An authority with a host is read back from its text.** -/
theorem readAuthority_body [DomainNames] {kind : Kind} {a : Authority} (h : a.Sound kind)
    (hhost : a.host ≠ .empty) (atEnd : Bool) : readAuthority kind atEnd a.body = .ok (a, []) := by
  have hread : HostText a.host.chars ∧ kind.readHost a.host.chars = .ok a.host := by
    unfold Kind.readHost
    rcases h.host with ⟨hspecial, hknown⟩ | ⟨hspecial, hempty | hunknown⟩
    · have htext := hknown.text
      refine ⟨htext, ?_⟩
      rw [hspecial, if_neg (by simp [htext.ne_nil]), if_pos rfl, readHost_chars hknown]
    · exact absurd hempty hhost
    · refine ⟨hunknown.text, ?_⟩
      rw [hspecial, if_neg (by simp), if_neg (by simp), readOpaqueHost_chars hunknown]
  obtain ⟨htext, hreadHost⟩ := hread
  have hsplit := htext.splitHost (behindHost_portChars a)
  have hport : kind.readPort a.host a.portChars = .ok (a.port, []) := by
    unfold Kind.readPort
    rw [if_neg (by simp [hhost]), readPort_portChars h]
  have hcheck : Authority.check ⟨a.username, a.password, a.host, a.port⟩ = .ok a := by
    unfold Authority.check
    rw [if_neg (by simp [hhost])]
  rw [readAuthority_eq, splitCredentials_body h htext]
  simp only [ok_bind, hsplit, hreadHost, hport, hcheck]
  rfl

/-- Nothing is read as an empty host, of a scheme whose structure is not known. -/
theorem readAuthority_nil [DomainNames] (atEnd : Bool) :
    readAuthority .other atEnd [] = .ok (⟨[], [], .empty, none⟩, []) := by
  rw [readAuthority_eq]
  rfl

theorem mem_body {kind : Kind} {a : Authority} (h : a.Sound kind) {c : Char} (hc : c ∈ a.body) :
    InAuthority c := by
  unfold Authority.body at hc
  rcases List.mem_append.mp hc with hc | hc
  · exact mem_credentials h hc
  · rcases List.mem_append.mp hc with hc | hc
    · rcases h.host with ⟨-, hknown⟩ | ⟨-, hempty | hunknown⟩
      · exact (hknown.text.mem hc).1
      · rw [hempty] at hc
        cases hc
      · exact (hunknown.text.mem hc).1
    · exact (mem_portChars hc).1

/-- The text of an authority is empty iff it has no host. -/
theorem body_eq_nil_iff {kind : Kind} {a : Authority} (h : a.Sound kind) :
    a.body = [] ↔ a.host = .empty := by
  constructor
  · intro hnil
    unfold Authority.body at hnil
    simp only [List.append_eq_nil_iff] at hnil
    rcases h.host with ⟨-, hknown⟩ | ⟨-, hempty | hunknown⟩
    · exact absurd hnil.2.1 hknown.text.ne_nil
    · exact hempty
    · exact absurd hnil.2.1 hunknown.text.ne_nil
  · intro hempty
    obtain ⟨hcredentials, hport⟩ := h.alone hempty
    simp [Authority.body, Authority.portChars, hcredentials, hempty, hport, Host.chars]

end StatusRegistry.Url
