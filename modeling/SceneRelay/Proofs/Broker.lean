import Mathlib.Logic.Function.Basic
import Mathlib.Tactic.Common
import SceneRelay.Broker

/-! What the options of a broker depend on. The rules below give the protection of a connection with
the parts of the settings and the files that are looked at on the way, in order; whatever is not
among them may be anything. -/
namespace SceneRelay

variable {identify : IdentityReader} {files files' : Files} {tls tls' : TlsSettings}
  {b b' : BrokerSettings} {cert key path : String}

/-- The path that is given for a file; an empty one counts as none. -/
def TlsSettings.path? (tls : TlsSettings) : TlsFile → Option String
  | .ca => Encryption.given tls.caCert
  | .clientCert => Encryption.given tls.clientCert
  | .clientKey => Encryption.given tls.clientKey

/-- Both files of a client are given. -/
def TlsSettings.hasClient (tls : TlsSettings) : Bool :=
  (tls.path? .clientCert).isSome && (tls.path? .clientKey).isSome

/-- The error for a file that cannot be read. -/
def TlsFile.unread (file : TlsFile) (path : String) (e : FileError) : BrokerError :=
  if e.isAbsence then .fileMissing file path else .fileUnreadable file path

/-- What can be looked at: the flags, whether there are settings for encryption and both files of a
client, the path of a file, and what is read at a path. -/
inductive Part where
  | insecure
  | settings
  | client
  | verify
  | given (file : TlsFile)
  | content (path : String)

/-- Two settings with their files do not differ in a part. -/
def Part.Same (files : Files) (b : BrokerSettings) (files' : Files) (b' : BrokerSettings) :
    Part → Prop
  | insecure => b.insecure = b'.insecure
  | settings => b.tls.isSome = b'.tls.isSome
  | client => b.tls.map TlsSettings.hasClient = b'.tls.map TlsSettings.hasClient
  | verify => b.tls.map TlsSettings.verifyServer = b'.tls.map TlsSettings.verifyServer
  | given file => (b.tls.bind fun t => t.path? file) = b'.tls.bind fun t => t.path? file
  | content path => files path = files' path

/-! ### Rules -/

/-- How the files of a client are read: not at all unless both are given, and the certificate
first. -/
inductive ClientRead (files : Files) (tls : TlsSettings) :
    List Part → Except BrokerError (Option (ByteArray × ByteArray)) → Prop
  | absent (h : tls.hasClient = false) : ClientRead files tls [.client] (.ok none)
  | noCertificate {cert e} (h : tls.hasClient) (hc : tls.path? .clientCert = some cert)
      (he : files cert = .error e) :
      ClientRead files tls [.client, .given .clientCert, .content cert]
        (.error (TlsFile.clientCert.unread cert e))
  | noKey {cert key c e} (h : tls.hasClient) (hc : tls.path? .clientCert = some cert)
      (hcert : files cert = .ok c) (hk : tls.path? .clientKey = some key)
      (he : files key = .error e) :
      ClientRead files tls
        [.client, .given .clientCert, .content cert, .given .clientKey, .content key]
        (.error (TlsFile.clientKey.unread key e))
  | both {cert key c k} (h : tls.hasClient) (hc : tls.path? .clientCert = some cert)
      (hcert : files cert = .ok c) (hk : tls.path? .clientKey = some key)
      (hkey : files key = .ok k) :
      ClientRead files tls
        [.client, .given .clientCert, .content cert, .given .clientKey, .content key]
        (.ok (some (c, k)))

/-- The protection by settings for encryption. The client's files come first; the authority matters
only where the server is checked. -/
inductive TlsProtects (identify : IdentityReader) (files : Files) (tls : TlsSettings) :
    List Part → Except BrokerError Encryption → Prop
  | unread {parts e} (h : ClientRead files tls parts (.error e)) :
      TlsProtects identify files tls parts (.error e)
  | anonymous {parts} (h : ClientRead files tls parts (.ok none))
      (hv : tls.verifyServer = false) :
      TlsProtects identify files tls (parts ++ [.verify]) (.ok (.unverified none))
  | identified {parts c k i} (h : ClientRead files tls parts (.ok (some (c, k))))
      (hv : tls.verifyServer = false) (hi : identify c k = .ok i) :
      TlsProtects identify files tls (parts ++ [.verify]) (.ok (.unverified (some i)))
  | badIdentity {parts c k f} (h : ClientRead files tls parts (.ok (some (c, k))))
      (hv : tls.verifyServer = false) (hi : identify c k = .error f) :
      TlsProtects identify files tls (parts ++ [.verify]) (.error (.badIdentity f))
  | noAuthority {parts client path e} (h : ClientRead files tls parts (.ok client))
      (hv : tls.verifyServer) (ha : tls.path? .ca = some path) (he : files path = .error e) :
      TlsProtects identify files tls (parts ++ [.verify, .given .ca, .content path])
        (.error (TlsFile.ca.unread path e))
  | anchored {parts client path ca} (h : ClientRead files tls parts (.ok client))
      (hv : tls.verifyServer) (ha : tls.path? .ca = some path) (hca : files path = .ok ca) :
      TlsProtects identify files tls (parts ++ [.verify, .given .ca, .content path])
        (.ok (.anchored ca client))
  | clientWithoutCa {parts pair} (h : ClientRead files tls parts (.ok (some pair)))
      (hv : tls.verifyServer) (ha : tls.path? .ca = none) :
      TlsProtects identify files tls (parts ++ [.verify, .given .ca]) (.error .clientWithoutCa)
  | standard {parts} (h : ClientRead files tls parts (.ok none)) (hv : tls.verifyServer)
      (ha : tls.path? .ca = none) :
      TlsProtects identify files tls (parts ++ [.verify, .given .ca]) (.ok .standard)

/-- The protection by the settings of a broker. -/
inductive Protects (identify : IdentityReader) (files : Files) (b : BrokerSettings) :
    List Part → Except BrokerError Encryption → Prop
  | insecure (h : b.insecure) : Protects identify files b [.insecure] (.ok .plain)
  | noTls (h : b.insecure = false) (ht : b.tls = none) :
      Protects identify files b [.insecure, .settings] (.ok .standard)
  | tls {tls parts result} (h : b.insecure = false) (ht : b.tls = some tls)
      (hp : TlsProtects identify files tls parts result) :
      Protects identify files b (.insecure :: .settings :: parts) result

/-! ### The rules say what is done -/

section
variable {parts : List Part}

theorem readFile_eq (file : TlsFile) :
    Encryption.readFile files file path = (files path).mapError (file.unread path) := rfl

theorem TlsSettings.hasClient_iff : tls.hasClient ↔
    ∃ cert key, tls.path? .clientCert = some cert ∧ tls.path? .clientKey = some key := by
  simp [hasClient, Option.isSome_iff_exists]

theorem clientFiles_of_absent (h : tls.hasClient = false) :
    Encryption.clientFiles files tls = .ok none := by
  unfold Encryption.clientFiles
  split
  · rename_i hc hk
    have hclient : tls.hasClient := TlsSettings.hasClient_iff.mpr ⟨_, _, hc, hk⟩
    nomatch h.symm.trans hclient
  · rfl

theorem clientFiles_of_given (hc : tls.path? .clientCert = some cert)
    (hk : tls.path? .clientKey = some key) :
    Encryption.clientFiles files tls =
      (Encryption.readFile files .clientCert cert).bind fun c =>
        (Encryption.readFile files .clientKey key).bind fun k => .ok (some (c, k)) := by
  unfold Encryption.clientFiles
  simp only [TlsSettings.path?] at hc hk
  rw [hc, hk]
  rfl

theorem ClientRead.eq {result : Except BrokerError (Option (ByteArray × ByteArray))}
    (h : ClientRead files tls parts result) : Encryption.clientFiles files tls = result := by
  cases h with
  | absent h => exact clientFiles_of_absent h
  | noCertificate h hc he =>
    obtain ⟨_, key, -, hk⟩ := TlsSettings.hasClient_iff.mp h
    rw [clientFiles_of_given hc hk, readFile_eq, he]
    rfl
  | noKey h hc hcert hk he =>
    rw [clientFiles_of_given hc hk, readFile_eq, readFile_eq, hcert, he]
    rfl
  | both h hc hcert hk hkey =>
    rw [clientFiles_of_given hc hk, readFile_eq, readFile_eq, hcert, hkey]
    rfl

theorem exists_clientRead (files : Files) (tls : TlsSettings) :
    ∃ parts, ClientRead files tls parts (Encryption.clientFiles files tls) := by
  suffices ∃ parts result, ClientRead files tls parts result by
    obtain ⟨parts, result, h⟩ := this
    exact ⟨parts, by rwa [h.eq]⟩
  cases h : tls.hasClient with
  | false => exact ⟨_, _, .absent h⟩
  | true =>
    obtain ⟨cert, key, hc, hk⟩ := TlsSettings.hasClient_iff.mp h
    cases hcert : files cert with
    | error e => exact ⟨_, _, .noCertificate h hc hcert⟩
    | ok c =>
      cases hkey : files key with
      | error e => exact ⟨_, _, .noKey h hc hcert hk hkey⟩
      | ok k => exact ⟨_, _, .both h hc hcert hk hkey⟩

theorem TlsProtects.eq {result : Except BrokerError Encryption}
    (h : TlsProtects identify files tls parts result) :
    Encryption.ofTls identify files tls = result := by
  unfold Encryption.ofTls
  cases h with
  | unread h =>
    rw [h.eq]
    rfl
  | anonymous h hv =>
    rw [h.eq, hv]
    rfl
  | identified h hv hi | badIdentity h hv hi =>
    rw [h.eq, hv]
    simp [hi, Bind.bind, Except.bind, Except.mapError, Pure.pure, Except.pure]
  | noAuthority h hv ha hf | anchored h hv ha hf =>
    simp only [TlsSettings.path?] at ha
    rw [h.eq, hv, ha]
    simp [readFile_eq, hf, Bind.bind, Except.bind, Except.mapError, Pure.pure, Except.pure]
  | clientWithoutCa h hv ha | standard h hv ha =>
    simp only [TlsSettings.path?] at ha
    rw [h.eq, hv, ha]
    rfl

theorem exists_tlsProtects (identify : IdentityReader) (files : Files) (tls : TlsSettings) :
    ∃ parts, TlsProtects identify files tls parts (Encryption.ofTls identify files tls) := by
  suffices ∃ parts result, TlsProtects identify files tls parts result by
    obtain ⟨parts, result, h⟩ := this
    exact ⟨parts, by rwa [h.eq]⟩
  obtain ⟨parts, h⟩ := exists_clientRead files tls
  cases hclient : Encryption.clientFiles files tls with
  | error e => exact ⟨_, _, .unread (hclient ▸ h)⟩
  | ok client =>
    rw [hclient] at h
    cases hv : tls.verifyServer with
    | false =>
      obtain _ | ⟨c, k⟩ := client
      · exact ⟨_, _, .anonymous h hv⟩
      · cases hi : identify c k with
        | error f => exact ⟨_, _, .badIdentity h hv hi⟩
        | ok i => exact ⟨_, _, .identified h hv hi⟩
    | true =>
      cases ha : tls.path? .ca with
      | some path =>
        cases hf : files path with
        | error e => exact ⟨_, _, .noAuthority h hv ha hf⟩
        | ok ca => exact ⟨_, _, .anchored h hv ha hf⟩
      | none =>
        cases client with
        | none => exact ⟨_, _, .standard h hv ha⟩
        | some pair => exact ⟨_, _, .clientWithoutCa h hv ha⟩

theorem Protects.eq {result : Except BrokerError Encryption}
    (h : Protects identify files b parts result) :
    Encryption.ofBroker identify files b = result := by
  unfold Encryption.ofBroker
  cases h with
  | insecure h => rw [if_pos h]
  | noTls h ht => simp [h, ht]
  | tls h ht hp => simp [h, ht, hp.eq]

theorem exists_protects (identify : IdentityReader) (files : Files) (b : BrokerSettings) :
    ∃ parts, Protects identify files b parts (Encryption.ofBroker identify files b) := by
  suffices ∃ parts result, Protects identify files b parts result by
    obtain ⟨parts, result, h⟩ := this
    exact ⟨parts, by rwa [h.eq]⟩
  cases h : b.insecure with
  | true => exact ⟨_, _, .insecure h⟩
  | false =>
    cases ht : b.tls with
    | none => exact ⟨_, _, .noTls h ht⟩
    | some tls =>
      obtain ⟨parts, hp⟩ := exists_tlsProtects identify files tls
      exact ⟨_, _, .tls h ht hp⟩

/-! ### What is not looked at does not matter -/

/-- Agreement in the parts of settings for encryption. -/
theorem Part.same_iff (files files' : Files) (ht : b.tls = some tls) (ht' : b'.tls = some tls') :
    (client.Same files b files' b' ↔ tls.hasClient = tls'.hasClient) ∧
    (verify.Same files b files' b' ↔ tls.verifyServer = tls'.verifyServer) ∧
    (∀ f, (given f).Same files b files' b' ↔ tls.path? f = tls'.path? f) ∧
    ∀ path, (content path).Same files b files' b' ↔ files path = files' path := by
  simp [Same, ht, ht']

theorem ClientRead.of_same {result : Except BrokerError (Option (ByteArray × ByteArray))}
    (h : ClientRead files tls parts result) (ht : b.tls = some tls) (ht' : b'.tls = some tls')
    (hsame : ∀ p ∈ parts, p.Same files b files' b') : ClientRead files' tls' parts result := by
  obtain ⟨hclient, -, hgiven, hcontent⟩ := Part.same_iff files files' ht ht'
  cases h <;>
    simp only [List.forall_mem_cons, hclient, hgiven, hcontent, List.not_mem_nil, false_implies,
      implies_true, and_true] at hsame
  case absent h => exact .absent (hsame ▸ h)
  case noCertificate h hc he =>
    obtain ⟨hs, hsc, hse⟩ := hsame
    exact .noCertificate (hs ▸ h) (hsc ▸ hc) (hse ▸ he)
  case noKey h hc hcert hk he =>
    obtain ⟨hs, hsc, hscert, hsk, hse⟩ := hsame
    exact .noKey (hs ▸ h) (hsc ▸ hc) (hscert ▸ hcert) (hsk ▸ hk) (hse ▸ he)
  case both h hc hcert hk hkey =>
    obtain ⟨hs, hsc, hscert, hsk, hskey⟩ := hsame
    exact .both (hs ▸ h) (hsc ▸ hc) (hscert ▸ hcert) (hsk ▸ hk) (hskey ▸ hkey)

theorem TlsProtects.of_same {result : Except BrokerError Encryption}
    (h : TlsProtects identify files tls parts result) (ht : b.tls = some tls)
    (ht' : b'.tls = some tls') (hsame : ∀ p ∈ parts, p.Same files b files' b') :
    TlsProtects identify files' tls' parts result := by
  obtain ⟨-, hverify, hgiven, hcontent⟩ := Part.same_iff files files' ht ht'
  cases h
  case unread h => exact .unread (h.of_same ht ht' hsame)
  all_goals
    simp only [List.forall_mem_append, List.forall_mem_cons, hverify, hgiven, hcontent,
      List.not_mem_nil, false_implies, implies_true, and_true] at hsame
  case anonymous h hv =>
    obtain ⟨hs, hsv⟩ := hsame
    exact .anonymous (h.of_same ht ht' hs) (hsv ▸ hv)
  case identified h hv hi =>
    obtain ⟨hs, hsv⟩ := hsame
    exact .identified (h.of_same ht ht' hs) (hsv ▸ hv) hi
  case badIdentity h hv hi =>
    obtain ⟨hs, hsv⟩ := hsame
    exact .badIdentity (h.of_same ht ht' hs) (hsv ▸ hv) hi
  case noAuthority h hv ha he =>
    obtain ⟨hs, hsv, hsa, hse⟩ := hsame
    exact .noAuthority (h.of_same ht ht' hs) (hsv ▸ hv) (hsa ▸ ha) (hse ▸ he)
  case anchored h hv ha hca =>
    obtain ⟨hs, hsv, hsa, hsca⟩ := hsame
    exact .anchored (h.of_same ht ht' hs) (hsv ▸ hv) (hsa ▸ ha) (hsca ▸ hca)
  case clientWithoutCa h hv ha =>
    obtain ⟨hs, hsv, hsa⟩ := hsame
    exact .clientWithoutCa (h.of_same ht ht' hs) (hsv ▸ hv) (hsa ▸ ha)
  case standard h hv ha =>
    obtain ⟨hs, hsv, hsa⟩ := hsame
    exact .standard (h.of_same ht ht' hs) (hsv ▸ hv) (hsa ▸ ha)

/-- Settings and files that do not differ in what is looked at give the same protection, and the
same is looked at. -/
theorem Protects.of_same {result : Except BrokerError Encryption}
    (h : Protects identify files b parts result)
    (hsame : ∀ p ∈ parts, p.Same files b files' b') : Protects identify files' b' parts result := by
  cases h with
  | insecure h =>
    have hs : b.insecure = b'.insecure := hsame .insecure (by simp)
    exact .insecure (hs ▸ h)
  | noTls h ht =>
    have hs : b.insecure = b'.insecure := hsame .insecure (by simp)
    have hst : b.tls.isSome = b'.tls.isSome := hsame .settings (by simp)
    rw [ht, Option.isSome_none, eq_comm, Option.isSome_eq_false_iff] at hst
    exact .noTls (hs ▸ h) (Option.isNone_iff_eq_none.mp hst)
  | tls h ht hp =>
    have hs : b.insecure = b'.insecure := hsame .insecure (by simp)
    have hst : b.tls.isSome = b'.tls.isSome := hsame .settings (by simp)
    rw [ht, Option.isSome_some, eq_comm, Option.isSome_iff_exists] at hst
    obtain ⟨tls', ht'⟩ := hst
    refine .tls (hs ▸ h) ht' (hp.of_same ht ht' fun p hp => hsame p ?_)
    exact List.mem_cons_of_mem _ (List.mem_cons_of_mem _ hp)

/-! ### What is looked at does matter -/

theorem TlsFile.unread_inj {file file' : TlsFile} {path path' : String} {e e' : FileError}
    (h : file.unread path e = file'.unread path' e') :
    path = path' ∧ e.isAbsence = e'.isAbsence := by
  unfold unread at h
  split at h <;> split at h <;> simp_all

theorem ClientRead.exists_unread {x : BrokerError} (h : ClientRead files tls parts (.error x)) :
    ∃ (file : TlsFile) (path : String) (e : FileError),
      x = file.unread path e ∧ files path = .error e := by
  cases h with
  | noCertificate _ _ he => exact ⟨_, _, _, rfl, he⟩
  | noKey _ _ _ _ he => exact ⟨_, _, _, rfl, he⟩

/-- A file that is reported as unread is one that cannot be read. -/
theorem Protects.exists_of_unread {file : TlsFile} {e : FileError} {x : BrokerError}
    (h : Protects identify files b parts (.error x)) (hx : x = file.unread path e) :
    ∃ e', files path = .error e' ∧ e'.isAbsence = e.isAbsence := by
  have hreported {file' : TlsFile} {path' : String} {e' : FileError}
      (hx' : x = file'.unread path' e') (he : files path' = .error e') :
      ∃ e', files path = .error e' ∧ e'.isAbsence = e.isAbsence := by
    obtain ⟨rfl, habsence⟩ := TlsFile.unread_inj (hx'.symm.trans hx)
    exact ⟨e', he, habsence⟩
  cases h with
  | tls _ _ hp =>
    cases hp with
    | unread h =>
      obtain ⟨file', path', e', hx', he⟩ := h.exists_unread
      exact hreported hx' he
    | noAuthority _ _ _ he => exact hreported rfl he
    | badIdentity | clientWithoutCa =>
      unfold TlsFile.unread at hx
      split at hx <;> nomatch hx

/-- Nothing but what is read at one path is different. -/
theorem Part.same_of_ne {p : Part} (hfiles : ∀ q, q ≠ path → files' q = files q)
    (hp : p ≠ .content path) : p.Same files b files' b := by
  cases p with
  | content q => exact (hfiles q fun heq => hp (heq ▸ rfl)).symm
  | _ => rfl

theorem ClientRead.of_unread {result : Except BrokerError (Option (ByteArray × ByteArray))}
    {e : FileError} (h : ClientRead files tls parts result) (hp : .content path ∈ parts)
    (hfiles : ∀ q, q ≠ path → files' q = files q) (he : files' path = .error e) :
    ∃ (file : TlsFile) (parts' : List Part),
      ClientRead files' tls parts' (.error (file.unread path e)) := by
  have hkey {cert key : String} {c : ByteArray} (h : tls.hasClient)
      (hc : tls.path? .clientCert = some cert) (hcert : files cert = .ok c)
      (hk : tls.path? .clientKey = some key) (hp : path = cert ∨ path = key) :
      ∃ (file : TlsFile) (parts' : List Part),
        ClientRead files' tls parts' (.error (file.unread path e)) := by
    by_cases heq : path = cert
    · exact ⟨_, _, .noCertificate h (heq ▸ hc) he⟩
    · have hcert' : files' cert = .ok c := (hfiles cert (Ne.symm heq)).trans hcert
      exact ⟨_, _, .noKey h hc hcert' (hp.resolve_left heq ▸ hk) he⟩
  cases h with
  | absent => simp at hp
  | @noCertificate cert _ h hc =>
    have hcert : path = cert := by simpa using hp
    exact ⟨_, _, .noCertificate h (hcert ▸ hc) he⟩
  | noKey h hc hcert hk => exact hkey h hc hcert hk (by simpa using hp)
  | both h hc hcert hk => exact hkey h hc hcert hk (by simpa using hp)

theorem TlsProtects.of_unread {result : Except BrokerError Encryption} {e : FileError}
    (h : TlsProtects identify files tls parts result) (ht : b.tls = some tls)
    (hp : .content path ∈ parts) (hfiles : ∀ q, q ≠ path → files' q = files q)
    (he : files' path = .error e) : ∃ (file : TlsFile) (parts' : List Part),
      TlsProtects identify files' tls parts' (.error (file.unread path e)) := by
  have hclient {parts : List Part} {result : Except BrokerError (Option (ByteArray × ByteArray))}
      (h : ClientRead files tls parts result) (hp : .content path ∈ parts) :
      ∃ (file : TlsFile) (parts' : List Part),
        TlsProtects identify files' tls parts' (.error (file.unread path e)) := by
    obtain ⟨file, parts', h'⟩ := h.of_unread hp hfiles he
    exact ⟨file, parts', .unread h'⟩
  have hca {parts : List Part} {client : Option (ByteArray × ByteArray)} {ca : String}
      (h : ClientRead files tls parts (.ok client)) (hv : tls.verifyServer)
      (ha : tls.path? .ca = some ca) (hp : .content path ∈ parts ∨ path = ca) :
      ∃ (file : TlsFile) (parts' : List Part),
        TlsProtects identify files' tls parts' (.error (file.unread path e)) := by
    by_cases hmem : .content path ∈ parts
    · exact hclient h hmem
    · -- The client's files are others, so that they are read as before.
      have hsame : ∀ p ∈ parts, p.Same files b files' b := fun p hp =>
        Part.same_of_ne hfiles (ne_of_mem_of_not_mem hp hmem)
      exact ⟨_, _, .noAuthority (h.of_same ht ht hsame) hv (hp.resolve_left hmem ▸ ha) he⟩
  cases h with
  | unread h => exact hclient h hp
  | anonymous h | identified h | badIdentity h => exact hclient h (by simpa using hp)
  | clientWithoutCa h | standard h => exact hclient h (by simpa using hp)
  | noAuthority h hv ha => exact hca h hv ha (by simpa using hp)
  | anchored h hv ha => exact hca h hv ha (by simpa using hp)

theorem Protects.of_unread {result : Except BrokerError Encryption} {e : FileError}
    (h : Protects identify files b parts result) (hp : .content path ∈ parts)
    (hfiles : ∀ q, q ≠ path → files' q = files q) (he : files' path = .error e) :
    ∃ (file : TlsFile) (parts' : List Part),
      Protects identify files' b parts' (.error (file.unread path e)) := by
  cases h with
  | insecure | noTls => simp at hp
  | tls h ht htls =>
    obtain ⟨file, parts', h'⟩ := htls.of_unread ht (by simpa using hp) hfiles he
    exact ⟨file, _, .tls h ht h'⟩

/-- A file is looked at if and only if the protection would be another with that file changed. -/
theorem Protects.content_mem_iff {result : Except BrokerError Encryption}
    (h : Protects identify files b parts result) : .content path ∈ parts ↔
      ∃ files' : Files, (∀ q, q ≠ path → files' q = files q) ∧
        Encryption.ofBroker identify files' b ≠ result := by
  constructor
  · intro hp
    -- A file that can be read goes missing, and one that cannot fails for another reason.
    obtain ⟨e, he⟩ : ∃ e : FileError,
        ∀ e', files path = .error e' → e'.isAbsence ≠ e.isAbsence := by
      cases files path with
      | ok content => exact ⟨.missing, nofun⟩
      | error e' =>
        cases e' with
        | isDirectory => exact ⟨.missing, by rintro _ ⟨⟩; decide⟩
        | missing | notDirectory => exact ⟨.isDirectory, by rintro _ ⟨⟩; decide⟩
    have hfiles (q : String) (hq : q ≠ path) :
        Function.update files path (.error e) q = files q := Function.update_of_ne hq _ _
    refine ⟨Function.update files path (.error e), hfiles, fun heq => ?_⟩
    obtain ⟨file, parts', h'⟩ := h.of_unread hp hfiles (Function.update_self _ _ _)
    rw [h'.eq] at heq
    obtain ⟨e', he', habsence⟩ := (heq ▸ h).exists_of_unread rfl
    exact he e' he' habsence
  · rintro ⟨files', hfiles, hne⟩
    by_contra hp
    have hsame : ∀ p ∈ parts, p.Same files b files' b := fun p hmem =>
      Part.same_of_ne hfiles (ne_of_mem_of_not_mem hmem hp)
    exact hne (h.of_same hsame).eq

end

/-! ### Options -/

namespace BrokerOptions

/-- The options for a client of the given name with a protection. -/
def protectedBy (clientId : String) (b : BrokerSettings) (e : Encryption) : BrokerOptions :=
  ⟨clientId, b.host, b.port, keepAlive, true, e⟩

variable {clientId : String}

theorem ofSettings_eq (hhost : ¬Text.isAllBlank b.host) (hport : b.port ≠ 0) :
    ofSettings identify files clientId b =
      (Encryption.ofBroker identify files b).map (protectedBy clientId b) := by
  rw [ofSettings, if_neg hhost, if_neg hport]
  cases Encryption.ofBroker identify files b <;> rfl

theorem map_protectedBy_inj {x y : Except BrokerError Encryption} :
    x.map (protectedBy clientId b) = y.map (protectedBy clientId b) ↔ x = y := by
  cases x <;> cases y <;> simp [Except.map, protectedBy]

/-- With a host and a port there are options, or the reason why there are none, by the rules alone,
and a rule applies to all settings and files. Others that do not differ in what the rule looked at
give the same; and a file was looked at exactly if changing nothing but that file can make a
difference. -/
theorem options_read_what_they_need (identify : IdentityReader) (files : Files) (clientId : String)
    (b : BrokerSettings) (hhost : ¬Text.isAllBlank b.host) (hport : b.port ≠ 0) :
    (∃ parts result, Protects identify files b parts result) ∧
    ∀ parts result, Protects identify files b parts result →
      ofSettings identify files clientId b = result.map (protectedBy clientId b) ∧
      (∀ files' b', b'.host = b.host → b'.port = b.port →
        (∀ p ∈ parts, p.Same files b files' b') →
          ofSettings identify files' clientId b' = ofSettings identify files clientId b) ∧
      ∀ path, .content path ∈ parts ↔ ∃ files' : Files, (∀ q, q ≠ path → files' q = files q) ∧
        ofSettings identify files' clientId b ≠ ofSettings identify files clientId b := by
  refine ⟨?_, fun parts result h => ?_⟩
  · obtain ⟨parts, h⟩ := exists_protects identify files b
    exact ⟨parts, _, h⟩
  · have hresult : ofSettings identify files clientId b = result.map (protectedBy clientId b) := by
      rw [ofSettings_eq hhost hport, h.eq]
    refine ⟨hresult, fun files' b' hhost' hport' hsame => ?_, fun path => ?_⟩
    · have hoptions : protectedBy clientId b' = protectedBy clientId b := by
        funext e
        rw [protectedBy, hhost', hport']
        rfl
      rw [hresult, ofSettings_eq (hhost' ▸ hhost) (hport' ▸ hport), (h.of_same hsame).eq, hoptions]
    · rw [h.content_mem_iff]
      simp only [hresult, ofSettings_eq hhost hport, ne_eq, map_protectedBy_inj]

/-- Where the server is not checked, an authority that is missing does not matter; an empty file is
no certificate. -/
theorem options_read_what_they_need_of_unchecked :
    let files : Files := fun path =>
      if path = "ca.pem" then .error .missing else .ok ByteArray.empty
    let tls (ca : Option String) : TlsSettings :=
      { caCert := ca, clientCert := some "c.pem", clientKey := some "k.pem", verifyServer := false }
    let b (ca : Option String) : BrokerSettings :=
      { host := "broker", port := 8883, tls := some (tls ca) }
    ¬Text.isAllBlank (b none).host ∧ (b none).port ≠ 0 ∧
      ofSettings Tls.Identity.ofPem files "id" (b none) = .error (.badIdentity .noCertificate) ∧
      ofSettings Tls.Identity.ofPem files "id" (b (some "ca.pem")) =
        ofSettings Tls.Identity.ofPem files "id" (b none) := by
  intro files tls b
  have hhost : ¬Text.isAllBlank (b none).host := by decide
  have hport : (b none).port ≠ 0 := by decide
  have hidentity : Tls.Identity.ofPem ByteArray.empty ByteArray.empty = .error .noCertificate := by
    decide +kernel
  have hread : ClientRead files (tls none) _ _ := .both rfl rfl rfl rfl rfl
  have hprotects := Protects.tls (b := b none) rfl rfl (.badIdentity hread rfl hidentity)
  obtain ⟨hresult, hsame, -⟩ :=
    (options_read_what_they_need Tls.Identity.ofPem files "id" (b none) hhost hport).2 _ _ hprotects
  refine ⟨hhost, hport, hresult, hsame files (b (some "ca.pem")) rfl rfl ?_⟩
  simp [Part.Same, b, tls, TlsSettings.hasClient, TlsSettings.path?]

end BrokerOptions
end SceneRelay
