import Mathlib
import OmniSupport.Foundation.Groups
import OmniSupport.Foundation.Percent
import OmniSupport.Foundation.PosixPath
import OmniSupport.Foundation.Text
import OmniSupport.Shared.Base

/-! The signed download links of the local storage provider: what a link grants, and which
files the download route opens. -/
namespace OmniSupport.Attachments
open Foundation

structure LocalStorageConfig where
  path : String
  baseUrl : String
  secret : String

/-- The keyed hash of the platform: a key and a message to its bytes. -/
abbrev Hmac := String → String → List UInt8

/-- `NotFoundError` without an id, and the error of the path check. -/
inductive DownloadError where
  | notFound (resource : String)
  | infrastructure (message : String)
  deriving DecidableEq

/-- A call of `getSignedUrl`; `expiresIn` counts seconds. -/
structure SignCall where
  storagePath : String
  expiresIn : Option Int
  now : Time

namespace SignCall

def expiresAt (call : SignCall) : Int := call.now + call.expiresIn.getD 3600 * 1000

def expires (call : SignCall) : String := toString call.expiresAt

end SignCall

/-- `encodeURIComponent` leaves these characters. -/
def unreserved (ch : Char) : Bool := ch.isAlphanum || decide (ch ∈ "-_.!~*'()".toList)

/-- `/^\d+$/` -/
def isDigits (text : String) : Bool := text ≠ "" && text.toList.all Char.isDigit

def number (text : String) : Nat := Nat.ofDigitChars 10 text.toList 0

namespace LocalStorageProvider
variable (hmacSha256 : Hmac) (config : LocalStorageConfig)

def digest (message : String) : String :=
  String.ofList (Percent.hex (hmacSha256 config.secret message))

def sign (storagePath expires : String) : String :=
  digest hmacSha256 config (storagePath ++ ":" ++ expires)

def encodedPath (storagePath : String) : List Char :=
  ['/'].intercalate ((storagePath.toList.splitOn '/').map (Percent.encode unreserved))

def getSignedUrl (call : SignCall) : String :=
  let token := sign hmacSha256 config call.storagePath call.expires
  config.baseUrl ++ "/" ++ String.ofList (encodedPath call.storagePath) ++ "?token=" ++ token ++
    "&expires=" ++ call.expires

def verifySignedUrl (now : Time) (storagePath expires token : String) : Bool :=
  if !isDigits expires || decide (number expires < now) then false
  else
    let expected := (sign hmacSha256 config storagePath expires).toByteArray
    let actual := token.toByteArray
    expected.size = actual.size && expected = actual

/-- Set once, from the working directory of the process. -/
def basePath (cwd : String) : List Char := PosixPath.resolve cwd.toList config.path.toList

/-- The path check of every access to a file. -/
def resolveFullPath (cwd storagePath : String) : Except DownloadError (List Char) :=
  let fullPath := PosixPath.resolve (basePath config cwd) storagePath.toList
  if (basePath config cwd ++ ['/']).isPrefixOf fullPath then .ok fullPath
  else .error (.infrastructure "Invalid storage path")

/-- The file the stream reads. -/
def openReadStream (cwd storagePath : String) : Except DownloadError (List Char) :=
  resolveFullPath config cwd storagePath

end LocalStorageProvider

/-- The path the route matched, decoded, and the query parameters that are texts. -/
structure DownloadRequest where
  storagePath : String
  token : Option String
  expires : Option String

namespace AttachmentController
open LocalStorageProvider

/-- The file that is served. -/
def downloadSignedFile (hmacSha256 : Hmac) (config : LocalStorageConfig) (cwd : String) (now : Time)
    (request : DownloadRequest) : Except DownloadError (List Char) :=
  match request.token, request.expires with
  | some token, some expires =>
    if request.storagePath ≠ "" && verifySignedUrl hmacSha256 config now request.storagePath expires
        token then
      openReadStream config cwd request.storagePath
    else .error (.notFound "File")
  | _, _ => .error (.notFound "File")

end AttachmentController

/-- What follows, if the text starts so. -/
def afterPrefix (start text : List Char) : Option (List Char) :=
  if start.isPrefixOf text then some (text.drop start.length) else none

/-- The parts a client takes from a link: the path with each segment decoded, `expires` and
`token`. -/
def readUrl (config : LocalStorageConfig) (url : String) : Option (String × String × String) := do
  let encoded ← afterPrefix (config.baseUrl ++ "/").toList url.toList
  let query ← afterPrefix "?token=".toList (encoded.dropWhile fun ch => ch ≠ '?')
  let expires ← afterPrefix "&expires=".toList (query.dropWhile fun ch => ch ≠ '&')
  let segments ← ((encoded.takeWhile fun ch => ch ≠ '?').splitOn '/').mapM Percent.decode
  return (String.ofList (['/'].intercalate segments), String.ofList expires,
    String.ofList (query.takeWhile fun ch => ch ≠ '&'))

section grants
open LocalStorageProvider
variable {hmacSha256 : Hmac} {config : LocalStorageConfig}

/-- The tokens of the links that were given out. -/
def issuedTokens (hmacSha256 : Hmac) (config : LocalStorageConfig) (history : List SignCall) :
    List String :=
  history.map fun call => sign hmacSha256 config call.storagePath call.expires

/-- The presenter has the token from a link, or made it up: then it is no digest. -/
def Presentable (hmacSha256 : Hmac) (config : LocalStorageConfig) (history : List SignCall)
    (token : String) : Prop :=
  token ∈ issuedTokens hmacSha256 config history ∨
    ∀ message, token ≠ digest hmacSha256 config message

theorem digest_injective (h : Function.Injective (hmacSha256 config.secret)) :
    Function.Injective (digest hmacSha256 config) := by
  intro a b hab
  have hhex := congrArg String.toList hab
  simp only [digest, String.toList_ofList] at hhex
  exact h (Percent.hex_injective hhex)

theorem verifySignedUrl_eq_true {now : Time} {storagePath expires token : String} :
    verifySignedUrl hmacSha256 config now storagePath expires token = true ↔
      isDigits expires = true ∧ now ≤ number expires ∧
        token = sign hmacSha256 config storagePath expires := by
  simp only [verifySignedUrl]
  split
  · rename_i hrefused
    simp only [Bool.or_eq_true, Bool.not_eq_true', decide_eq_true_eq] at hrefused
    constructor
    · intro h
      cases h
    · rintro ⟨hdigits, hcurrent, -⟩
      rcases hrefused with hrefused | hrefused
      · rw [hdigits] at hrefused
        cases hrefused
      · exact absurd hcurrent (Nat.not_le.mpr hrefused)
  · rename_i hchecked
    simp only [Bool.or_eq_true, Bool.not_eq_true', decide_eq_true_eq, not_or, Bool.not_eq_false,
      not_lt] at hchecked
    simp only [Bool.and_eq_true, decide_eq_true_eq, String.toByteArray_inj]
    constructor
    · intro h
      exact ⟨hchecked.1, hchecked.2, h.2.symm⟩
    · rintro ⟨-, -, rfl⟩
      exact ⟨rfl, rfl⟩

theorem colon_notMem_of_isDigits {text : String} (h : isDigits text = true) :
    ':' ∉ text.toList := by
  intro hcolon
  simp only [isDigits, Bool.and_eq_true, List.all_eq_true] at h
  have hdigit := h.2 ':' hcolon
  revert hdigit
  decide

theorem colon_notMem_expires (call : SignCall) : ':' ∉ call.expires.toList := by
  have hnat : ∀ n : Nat, ':' ∉ (toString n).toList := Text.notMem_toString_nat (by decide)
  rw [SignCall.expires]
  cases call.expiresAt with
  | ofNat n => exact hnat n
  | negSucc n =>
    have htext : toString (Int.negSucc n) = "-" ++ toString (n + 1) := rfl
    rw [htext, String.toList_append, List.mem_append, not_or]
    exact ⟨by decide, hnat (n + 1)⟩

/-- The signed text can be taken apart: neither expiry has a colon. -/
theorem signed_inj {path path' expires expires' : String} (h : ':' ∉ expires.toList)
    (h' : ':' ∉ expires'.toList) (hsame : path ++ ":" ++ expires = path' ++ ":" ++ expires') :
    path = path' ∧ expires = expires' := by
  have hlists := congrArg String.toList hsame
  simp only [String.toList_append, List.append_assoc] at hlists
  obtain ⟨hpath, hexpires⟩ := Text.append_sep_inj_right h h' hlists
  exact ⟨String.toList_inj.mp hpath, String.toList_inj.mp hexpires⟩

/-- A link that verifies was given out, with this token. -/
theorem issued_of_verify {history : List SignCall} {now : Time} {storagePath expires token : String}
    (hinjective : Function.Injective (hmacSha256 config.secret))
    (hknown : Presentable hmacSha256 config history token)
    (hverified : verifySignedUrl hmacSha256 config now storagePath expires token = true) :
    now ≤ number expires ∧ ∃ call ∈ history, call.storagePath = storagePath ∧
      call.expires = expires ∧ sign hmacSha256 config call.storagePath call.expires = token := by
  obtain ⟨hdigits, hcurrent, htoken⟩ := verifySignedUrl_eq_true.mp hverified
  refine ⟨hcurrent, ?_⟩
  rcases hknown with hissued | hguessed
  · obtain ⟨call, hcall, hsigned⟩ := List.mem_map.mp hissued
    have hsame := digest_injective hinjective (hsigned.trans htoken)
    obtain ⟨hpath, hexpires⟩ :=
      signed_inj (colon_notMem_expires call) (colon_notMem_of_isDigits hdigits) hsame
    exact ⟨call, hcall, hpath, hexpires, hsigned⟩
  · exact absurd htoken (hguessed _)

theorem isDigits_toString (n : Nat) : isDigits (toString n) = true := by
  have hall : ∀ ch ∈ (toString n).toList, ch.isDigit = true := by
    intro ch hch
    cases hdigit : ch.isDigit with
    | true => rfl
    | false => exact absurd hch (Text.notMem_toString_nat hdigit n)
  have hne : toString n ≠ "" := by
    intro hempty
    have hdigits := congrArg String.toList hempty
    rw [Nat.toString_eq_ofList_toDigits, String.toList_ofList] at hdigits
    exact Nat.toDigits_ne_nil hdigits
  simp only [isDigits, Bool.and_eq_true, List.all_eq_true, decide_eq_true_eq]
  exact ⟨hne, hall⟩

theorem number_toString (n : Nat) : number (toString n) = n := by
  rw [number, Nat.toString_eq_ofList_toDigits, String.toList_ofList, Nat.ofDigitChars_ten_toDigits]

/-- What was given out verifies exactly until it expires. -/
theorem verify_issued {call : SignCall} {now : Time} :
    verifySignedUrl hmacSha256 config now call.storagePath call.expires
      (sign hmacSha256 config call.storagePath call.expires) = true ↔ now ≤ call.expiresAt := by
  rw [verifySignedUrl_eq_true, SignCall.expires]
  cases call.expiresAt with
  | ofNat n =>
    have htext : toString (Int.ofNat n) = toString n := rfl
    rw [htext, number_toString, isDigits_toString]
    simp
  | negSucc n =>
    have hminus : isDigits (toString (Int.negSucc n)) = false := by
      have htext : toString (Int.negSucc n) = "-" ++ toString (n + 1) := rfl
      simp [isDigits, htext]
    rw [hminus]
    simp only [Bool.false_eq_true, false_and, false_iff]
    omega

end grants

section links
open LocalStorageProvider
variable {hmacSha256 : Hmac} {config : LocalStorageConfig}

theorem afterPrefix_append (start rest : List Char) :
    afterPrefix start (start ++ rest) = some rest := by
  simp [afterPrefix]

/-- A mark that is reserved and no part of an escape does not occur in an encoded segment. -/
theorem notMem_encode {mark : Char} (hreserved : unreserved mark = false) (hmark : mark ≠ '%')
    (hdigit : ∀ n < 16, mark ≠ Percent.upperHexDigit n) (segment : List Char) :
    mark ∉ Percent.encode unreserved segment := by
  intro h
  obtain hplain | hescape | ⟨n, hn, hsame⟩ := Percent.mem_encode h
  · rw [hreserved] at hplain
    cases hplain
  · exact hmark hescape
  · exact hdigit n hn hsame

theorem slash_notMem_encode (segment : List Char) : '/' ∉ Percent.encode unreserved segment :=
  notMem_encode (by decide) (by decide) (by decide) segment

theorem question_notMem_encode (segment : List Char) : '?' ∉ Percent.encode unreserved segment :=
  notMem_encode (by decide) (by decide) (by decide) segment

theorem question_notMem_encodedPath (storagePath : String) : '?' ∉ encodedPath storagePath := by
  intro h
  rcases Text.mem_joined h with hslash | ⟨segment, hsegment, hquestion⟩
  · revert hslash
    decide
  · obtain ⟨plain, -, rfl⟩ := List.mem_map.mp hsegment
    exact question_notMem_encode plain hquestion

theorem ampersand_notMem_digest (message : String) :
    '&' ∉ (digest hmacSha256 config message).toList := by
  intro h
  rw [digest, String.toList_ofList] at h
  obtain ⟨n, hn, hdigit⟩ := Percent.isDigit_or_lower_of_mem_hex h
  have hall : ∀ n < 16, '&' ≠ Percent.hexDigit n := by decide
  exact hall n hn hdigit

/-- Decoding each segment gives the path back. -/
theorem decode_encodedPath (storagePath : String) :
    ((encodedPath storagePath).splitOn '/').mapM Percent.decode =
      some (storagePath.toList.splitOn '/') := by
  have hsplit : (encodedPath storagePath).splitOn '/' =
      (storagePath.toList.splitOn '/').map (Percent.encode unreserved) := by
    refine List.splitOn_intercalate '/' (fun segment hsegment => ?_) (by simp)
    obtain ⟨plain, -, rfl⟩ := List.mem_map.mp hsegment
    exact slash_notMem_encode plain
  rw [hsplit]
  generalize storagePath.toList.splitOn '/' = segments
  induction segments with
  | nil => rfl
  | cons segment segments ih =>
    rw [List.map_cons, List.mapM_cons, ih, Percent.decode_encode (by decide)]
    rfl

theorem takeWhile_ne_append {mark : Char} {text : List Char} (h : mark ∉ text)
    (rest : List Char) :
    (text ++ mark :: rest).takeWhile (fun ch => ch ≠ mark) = text ∧
      (text ++ mark :: rest).dropWhile (fun ch => ch ≠ mark) = mark :: rest := by
  have hall : ∀ ch ∈ text, decide (ch ≠ mark) = true := by
    intro ch hch
    rw [decide_eq_true_eq]
    rintro rfl
    exact h hch
  rw [List.takeWhile_append_of_pos hall, List.dropWhile_append_of_pos hall]
  simp

/-- A client reads from a link what it was signed for. -/
theorem readUrl_getSignedUrl (call : SignCall) :
    readUrl config (getSignedUrl hmacSha256 config call) = some (call.storagePath, call.expires,
      sign hmacSha256 config call.storagePath call.expires) := by
  generalize htoken : sign hmacSha256 config call.storagePath call.expires = token
  have hamp : '&' ∉ token.toList := by
    rw [← htoken]
    exact ampersand_notMem_digest _
  obtain ⟨hpath, hafter⟩ := takeWhile_ne_append (question_notMem_encodedPath call.storagePath)
    ("token=".toList ++ (token.toList ++ '&' :: ("expires=".toList ++ call.expires.toList)))
  obtain ⟨hread, hrest⟩ := takeWhile_ne_append hamp ("expires=".toList ++ call.expires.toList)
  have hurl : (getSignedUrl hmacSha256 config call).toList = (config.baseUrl ++ "/").toList ++
      (encodedPath call.storagePath ++ '?' :: ("token=".toList ++ (token.toList ++
        '&' :: ("expires=".toList ++ call.expires.toList)))) := by
    simp [getSignedUrl, htoken]
  have hquery : afterPrefix "?token=".toList ('?' :: ("token=".toList ++ (token.toList ++
      '&' :: ("expires=".toList ++ call.expires.toList)))) =
      some (token.toList ++ '&' :: ("expires=".toList ++ call.expires.toList)) :=
    afterPrefix_append "?token=".toList _
  have hexpires : afterPrefix "&expires=".toList ('&' :: ("expires=".toList ++
      call.expires.toList)) = some call.expires.toList :=
    afterPrefix_append "&expires=".toList _
  simp only [readUrl, hurl, afterPrefix_append, hpath, hafter, hread, hrest, hquery, hexpires,
    decode_encodedPath, Option.bind_eq_bind, Option.bind_some, Option.pure_def,
    List.intercalate_splitOn, String.ofList_toList]

/-- Whatever path is opened, the file lies strictly inside the storage root. -/
theorem openReadStream_inside {cwd storagePath : String} {file : List Char}
    (h : openReadStream config cwd storagePath = .ok file) :
    PosixPath.StrictlyInside (basePath config cwd) file := by
  obtain ⟨segments, hproper, hresolved⟩ := PosixPath.resolve_eq (basePath config cwd)
    storagePath.toList
  simp only [openReadStream, resolveFullPath, hresolved] at h
  split at h
  · rename_i hstarts
    obtain rfl := Except.ok.inj h
    exact PosixPath.strictlyInside_of_prefix hproper rfl (List.isPrefixOf_iff_prefix.mp hstarts)
  · cases h

/-- The route opens a file for a link that verifies only. -/
theorem downloadSignedFile_ok {cwd : String} {now : Time} {request : DownloadRequest}
    {file : List Char}
    (h : AttachmentController.downloadSignedFile hmacSha256 config cwd now request = .ok file) :
    ∃ token expires, request.token = some token ∧ request.expires = some expires ∧
      verifySignedUrl hmacSha256 config now request.storagePath expires token = true ∧
      openReadStream config cwd request.storagePath = .ok file := by
  simp only [AttachmentController.downloadSignedFile] at h
  split at h
  · rename_i token expires htoken hexpires
    split at h
    · rename_i hallowed
      simp only [Bool.and_eq_true] at hallowed
      exact ⟨token, expires, htoken, hexpires, hallowed.2, h⟩
    · cases h
  · cases h

end links

/-- What was given out is granted, until it expires, and nothing else; and the files are those
inside the storage root. -/
theorem signed_urls_grant (hmacSha256 : Hmac) (config : LocalStorageConfig)
    (hinjective : Function.Injective (hmacSha256 config.secret)) (history : List SignCall) :
    (∀ (now : Time) (storagePath expires token : String),
      Presentable hmacSha256 config history token →
      LocalStorageProvider.verifySignedUrl hmacSha256 config now storagePath expires token = true →
      now ≤ number expires ∧ ∃ call ∈ history, call.storagePath = storagePath ∧
        call.expires = expires ∧
        LocalStorageProvider.sign hmacSha256 config call.storagePath call.expires = token) ∧
    (∀ call ∈ history,
      readUrl config (LocalStorageProvider.getSignedUrl hmacSha256 config call) =
        some (call.storagePath, call.expires,
          LocalStorageProvider.sign hmacSha256 config call.storagePath call.expires) ∧
      ∀ now : Time, LocalStorageProvider.verifySignedUrl hmacSha256 config now call.storagePath
        call.expires (LocalStorageProvider.sign hmacSha256 config call.storagePath call.expires) =
          true ↔ now ≤ call.expiresAt) ∧
    (∀ (cwd storagePath : String) (file : List Char),
      LocalStorageProvider.openReadStream config cwd storagePath = .ok file →
      PosixPath.StrictlyInside (LocalStorageProvider.basePath config cwd) file) ∧
    ∀ (cwd : String) (now : Time) (request : DownloadRequest) (file : List Char),
      (∀ token, request.token = some token → Presentable hmacSha256 config history token) →
      AttachmentController.downloadSignedFile hmacSha256 config cwd now request = .ok file →
      PosixPath.StrictlyInside (LocalStorageProvider.basePath config cwd) file ∧
      ∃ call ∈ history, now ≤ call.expiresAt ∧ request.storagePath = call.storagePath ∧
        request.expires = some call.expires ∧ request.token =
          some (LocalStorageProvider.sign hmacSha256 config call.storagePath call.expires) := by
  refine ⟨fun now storagePath expires token hknown hverified => ?_, fun call hcall => ?_,
    fun cwd storagePath file hopened => openReadStream_inside hopened,
    fun cwd now request file hknown hserved => ?_⟩
  · exact issued_of_verify hinjective hknown hverified
  · exact ⟨readUrl_getSignedUrl call, fun now => verify_issued⟩
  · obtain ⟨token, expires, htoken, hexpires, hverified, hopened⟩ := downloadSignedFile_ok hserved
    obtain ⟨-, call, hcall, hpath, hsame, hsigned⟩ :=
      issued_of_verify hinjective (hknown token htoken) hverified
    rw [← hpath, ← hsame, ← hsigned] at hverified
    refine ⟨openReadStream_inside hopened, call, hcall, verify_issued.mp hverified, hpath.symm, ?_,
      ?_⟩
    · rw [hexpires, hsame]
    · rw [htoken, hsigned]

section demo

def demoConfig : LocalStorageConfig where
  path := "./uploads"
  baseUrl := "http://localhost:3000/api/v1/attachments/files"
  secret := "local-storage-secret"

/-- A link for a quarter of an hour. -/
def demoCall : SignCall := ⟨"2/attachments/1000-a b.png", some 900, 1000⟩

/-- The digest of the text of `demoCall`. -/
def demoDigest : List UInt8 :=
  [0x4d, 0xb5, 0x71, 0xc6, 0xa9, 0x8b, 0x4a, 0x9d, 0xe3, 0x09, 0x6a, 0xd5, 0x90, 0xb6,
    0x39, 0xf9, 0xde, 0x97, 0xf6, 0x8b, 0x10, 0x90, 0x3b, 0xf3, 0x94, 0xa5, 0x3d, 0x4e,
    0xd6, 0x3d, 0xe3, 0x9f]

/-- The hash on the text of `demoCall`, and some longer bytes elsewhere. -/
def demoHmac : Hmac := fun _ message =>
  if message = "2/attachments/1000-a b.png:901000" then demoDigest
  else List.replicate 33 0 ++ message.toByteArray.data.toList

theorem demoHmac_injective (secret : String) : Function.Injective (demoHmac secret) := by
  have hlong : ∀ message : String,
      demoDigest ≠ List.replicate 33 0 ++ message.toByteArray.data.toList := by
    intro message h
    have hlength := congrArg List.length h
    rw [List.length_append, List.length_replicate] at hlength
    have hdigest : demoDigest.length = 32 := rfl
    omega
  intro a b hab
  simp only [demoHmac] at hab
  split at hab
  · rename_i ha
    split at hab
    · rename_i hb
      rw [ha, hb]
    · exact absurd hab (hlong b)
  · split at hab
    · exact absurd hab.symm (hlong a)
    · have hbytes := List.append_cancel_left hab
      exact String.toByteArray_inj.mp (ByteArray.ext (Array.toList_inj.mp (by simpa using hbytes)))

end demo

theorem signed_urls_grant_demo :
    LocalStorageProvider.verifySignedUrl demoHmac demoConfig 901001 demoCall.storagePath
        demoCall.expires
        (LocalStorageProvider.sign demoHmac demoConfig demoCall.storagePath demoCall.expires) =
      false ∧
    ∃ file, AttachmentController.downloadSignedFile demoHmac demoConfig "/srv" 901000
        ⟨demoCall.storagePath, some (LocalStorageProvider.sign demoHmac demoConfig
          demoCall.storagePath demoCall.expires), some demoCall.expires⟩ = .ok file ∧
      PosixPath.StrictlyInside (LocalStorageProvider.basePath demoConfig "/srv") file := by
  have hgrants := signed_urls_grant demoHmac demoConfig (demoHmac_injective _) [demoCall]
  have hcall := hgrants.2.1 demoCall List.mem_cons_self
  constructor
  · rw [← Bool.not_eq_true, hcall.2 901001]
    decide
  · have hserved : AttachmentController.downloadSignedFile demoHmac demoConfig "/srv" 901000
        ⟨demoCall.storagePath, some (LocalStorageProvider.sign demoHmac demoConfig
          demoCall.storagePath demoCall.expires), some demoCall.expires⟩ =
        .ok "/srv/uploads/2/attachments/1000-a b.png".toList := by
      decide +kernel
    refine ⟨_, hserved, (hgrants.2.2.2 _ _ _ _ (fun token htoken => .inl ?_) hserved).1⟩
    rw [← Option.some.inj htoken]
    exact List.mem_cons_self

end OmniSupport.Attachments
