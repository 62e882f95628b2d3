/-
This file is the download of an asset of the model runtime: it goes on from a partial file,
follows a few redirects inside the delivery network of its origin, and replaces the
destination by the partial file once its size and its SHA-256 are those of the catalog. A
pause keeps the partial file and any other failure removes it. A download whose address is
not one of the catalog's origins is refused before any file is touched.

What the server does is given as its replies, and what the owner does as the state of the
two flags whenever they are looked at. `urljoin`, the Unicode tables and SHA-256 are
parameters.
-/

import CareerOS.Library.UrlText

namespace CareerOS

open Url

/-- What a download needs of the standard library. -/
class DownloadTables extends TextTables where
  /-- `str.casefold()`. -/
  casefold : String → String
  /-- `urljoin(base, url)`, which raises a `ValueError` on some malformed addresses. -/
  urljoin : String → String → Except String String
  /-- `hashlib.sha256(content).hexdigest()`. -/
  sha256 : List UInt8 → String

/-! ### Files, replies and attempts -/

/-- What stands at the path of the partial file. -/
inductive PartialPath
  | absent
  | link
  | file (content : List UInt8)
  /-- A directory or a special file. -/
  | other
  deriving DecidableEq

/-- The two files of a download. -/
structure DownloadFiles where
  partialPath : PartialPath
  destination : Option (List UInt8)

/-- The flags of the owner. -/
structure Signals where
  paused : Bool := false
  cancelled : Bool := false

/-- A chunk of a body, with the flags as they are when it arrives. -/
structure BodyChunk where
  chunk : List UInt8
  signals : Signals := {}

/-- A response: its status and headers, the chunks of its body, and whether reading or writing
the body fails after them. -/
structure Response where
  status : Nat
  location : Option String := none
  contentLength : Option String := none
  body : List BodyChunk := []
  broken : Bool := false

/-- A reply of the server; nothing is an exception of the client. -/
abbrev Reply := Option Response

/-- The arguments of `download_verified`, with what happens during the call. -/
structure DownloadAttempt where
  url : String
  expectedSha256 : String
  expectedSize : Nat
  signals : Signals := {}
  replies : List Reply := []
  /-- Does `os.replace` succeed? -/
  replaces : Bool := true

/-- How an attempt ends. -/
inductive Ending
  | published
  | paused
  | failed (message : String)
  deriving DecidableEq

/-- An attempt that is over: how it ended, the files it left, and the URLs it asked for. -/
structure FinishedDownload where
  ending : Ending
  files : DownloadFiles
  requests : List String

section

variable [DownloadTables]

open DownloadTables

/-! ### Addresses -/

/-- `_INITIAL_DOWNLOAD_HOSTS`. -/
def initialDownloadHosts : List String := ["github.com", "huggingface.co"]

/-- `_GITHUB_DELIVERY_HOSTS`. -/
def githubDeliveryHosts : List String := ["github.com", "release-assets.githubusercontent.com"]

/-- `_HUGGING_FACE_DELIVERY_HOSTS`. -/
def huggingFaceDeliveryHosts : List String := ["huggingface.co", "cdn-lfs.huggingface.co"]

/-- `_HUGGING_FACE_DELIVERY_SUFFIXES`. -/
def huggingFaceDeliverySuffixes : List String := [".cdn.hf.co", ".xethub.hf.co"]

/-- The hosts an asset of an origin may be delivered by. -/
def approvedHost (originHost host : String) : Bool :=
  if originHost = "github.com" then host ∈ githubDeliveryHosts
  else host ∈ huggingFaceDeliveryHosts ||
    huggingFaceDeliverySuffixes.any fun suffix => suffix.toList.isSuffixOf host.toList

/-- The host of an address, as the checks compare it. -/
def foldedHost (parsed : SplitResult) : String := casefold (parsed.hostname.getD "")

section

omit [DownloadTables] in
theorem lawful_ports : LawfulBEq (Option Nat) := inferInstance

attribute [local instance] lawful_ports

/-- `_validated_initial_download_url`, with the host it returns. -/
def validatedInitialDownloadUrl (url : String) : Except String String := do
  let parsed ← (urlsplitText url).mapError fun _ => "download URL is malformed"
  let port ← parsed.port.mapError fun _ => "download URL is malformed"
  refuseWhen (casefold parsed.scheme ≠ "https" ∨ foldedHost parsed ∉ initialDownloadHosts ∨
      port ∉ [none, some 443] ∨ parsed.hasCredentials = true ∨ parsed.query ≠ [] ∨
      parsed.fragment ≠ [])
    "download requires an approved HTTPS catalog origin"
  return foldedHost parsed

/-- `_validated_redirect_url`. -/
def validatedRedirectUrl (currentUrl location originHost : String) : Except String String := do
  let candidate ← urljoin currentUrl location
  let parsed ← (urlsplitText candidate).mapError fun _ => "download redirect URL is malformed"
  let port ← parsed.port.mapError fun _ => "download redirect URL is malformed"
  refuseWhen (casefold parsed.scheme ≠ "https" ∨ port ∉ [none, some 443] ∨
      parsed.hasCredentials = true ∨ parsed.fragment ≠ [])
    "download redirect leaves the approved HTTPS delivery network"
  refuseWhen (approvedHost originHost (foldedHost parsed) = false)
    "download redirect leaves the approved HTTPS delivery network"
  return candidate

end

/-! ### Receiving a body -/

/-- The running values of a download: the partial file, what the digest was fed, and the count. -/
structure Transfer where
  file : Option (List UInt8)
  digest : List UInt8
  received : Nat

/-- Why a download stops before it is complete. -/
inductive Halt
  | paused
  | failed (message : String)

/-- The loop over the chunks of a body. -/
def receive (expectedSize : Nat) (transfer : Transfer) : List BodyChunk → Option Halt × Transfer
  | [] => (none, transfer)
  | next :: rest =>
    if next.signals.paused then (some .paused, transfer)
    else if next.signals.cancelled then (some (.failed "model installation cancelled"), transfer)
    else if next.chunk = [] then receive expectedSize transfer rest
    else if expectedSize < transfer.received + next.chunk.length then
      (some (.failed "download exceeds the signed catalog size"), transfer)
    else
      receive expectedSize {
        file := some (transfer.file.getD [] ++ next.chunk)
        digest := transfer.digest ++ next.chunk
        received := transfer.received + next.chunk.length } rest

/-- The `content-length` of a response, where it disagrees with what is still to come. -/
def advertisedFault (expected : Nat) : Option String → Option String
  | none => none
  | some advertised =>
    if advertised = "" ∨ advertised.toList.all isDigit = false then
      some "download size header is malformed"
    else if 4300 < advertised.length then
      some "Exceeds the limit for integer string conversion"
    else if decimal advertised.toList ≠ expected then
      some "download size does not match the signed catalog"
    else none

/-- A server that ignored the range makes the download start anew. -/
def restart (transfer : Transfer) (status : Nat) : Transfer :=
  if transfer.received ≠ 0 ∧ status ≠ 206 then { transfer with digest := [], received := 0 }
  else transfer

/-- `partial.open("ab" if received else "wb")`. -/
def openPartial (transfer : Transfer) : Transfer :=
  if transfer.received ≠ 0 then transfer else { transfer with file := some [] }

/-- The body of a response, with what is read or written after its last chunk. -/
def receiveBody (expectedSize : Nat) (transfer : Transfer) (response : Response) :
    Option Halt × Transfer :=
  match receive expectedSize (openPartial transfer) response.body with
  | (none, filled) =>
    if response.broken then (some (.failed "download body error"), filled) else (none, filled)
  | halted => halted

/-- A response that is no redirect. -/
def receiveResponse (expectedSize : Nat) (transfer : Transfer) (response : Response) :
    Option Halt × Transfer :=
  if response.status < 200 ∨ 300 ≤ response.status then
    (some (.failed "HTTP status error"), transfer)
  else
    let transfer := restart transfer response.status
    match advertisedFault (expectedSize - transfer.received) response.contentLength with
    | some message => (some (.failed message), transfer)
    | none => receiveBody expectedSize transfer response

/-! ### A download -/

/-- `_DOWNLOAD_REDIRECT_STATUSES`. -/
def downloadRedirectStatuses : List Nat := [301, 302, 303, 307, 308]

/-- `_MAX_DOWNLOAD_REDIRECTS`. -/
def maxDownloadRedirects : Nat := 3

/-- The loop over the requests, after so many redirects. -/
def request (expectedSize : Nat) (originHost : String) (transfer : Transfer) :
    Nat → String → List Reply → Option Halt × Transfer × List String
  | redirects, currentUrl, some response :: later =>
    if response.status ∈ downloadRedirectStatuses then
      if maxDownloadRedirects < redirects + 1 then
        (some (.failed "download exceeded its redirect limit"), transfer, [currentUrl])
      else if response.location.getD "" = "" then
        (some (.failed "download redirect is missing its destination"), transfer, [currentUrl])
      else
        match validatedRedirectUrl currentUrl (response.location.getD "") originHost with
        | .error message => (some (.failed message), transfer, [currentUrl])
        | .ok nextUrl =>
          let (halt, filled, requests) :=
            request expectedSize originHost transfer (redirects + 1) nextUrl later
          (halt, filled, currentUrl :: requests)
    else
      let (halt, filled) := receiveResponse expectedSize transfer response
      (halt, filled, [currentUrl])
  | _, currentUrl, _ => (some (.failed "HTTP transport error"), transfer, [currentUrl])

/-- What an attempt goes on from: the partial file, unless it is too long. -/
def resumeFrom (expectedSize : Nat) : PartialPath → Transfer
  | .file content =>
    if expectedSize < content.length then ⟨none, [], 0⟩
    else ⟨some content, content, content.length⟩
  | _ => ⟨none, [], 0⟩

/-- The download up to the check of its size, inside of the `try`. -/
def fetch (attempt : DownloadAttempt) (originHost : String) (transfer : Transfer) :
    Option Halt × Transfer × List String :=
  if attempt.signals.paused then (some .paused, transfer, [])
  else if attempt.signals.cancelled then
    (some (.failed "model installation cancelled"), transfer, [])
  else if transfer.received = attempt.expectedSize then (none, transfer, [])
  else request attempt.expectedSize originHost transfer 0 attempt.url attempt.replies

/-- A file as what stands at its path. -/
def PartialPath.ofFile : Option (List UInt8) → PartialPath
  | none => .absent
  | some content => .file content

/-- What is done once everything is received: the checks and `os.replace`. -/
def publishDownload (attempt : DownloadAttempt) (destination : Option (List UInt8))
    (transfer : Transfer) : Ending × DownloadFiles :=
  if transfer.received ≠ attempt.expectedSize then
    (.failed "download is incomplete", ⟨.absent, destination⟩)
  else if sha256 transfer.digest ≠ casefold attempt.expectedSha256 then
    (.failed "download SHA-256 does not match the signed catalog", ⟨.absent, destination⟩)
  else
    match transfer.file with
    | some content =>
      if attempt.replaces then (.published, ⟨.absent, some content⟩)
      else (.failed "replacing failed", ⟨.absent, destination⟩)
    | none => (.failed "replacing failed", ⟨.absent, destination⟩)

/-- How the `try` of a download ends: a pause keeps the partial file, and any other failure
removes it. -/
def finishDownload (attempt : DownloadAttempt) (files : DownloadFiles) :
    Option Halt × Transfer × List String → FinishedDownload
  | (some .paused, transfer, requests) =>
    ⟨.paused, { files with partialPath := .ofFile transfer.file }, requests⟩
  | (some (.failed message), _, requests) =>
    ⟨.failed message, { files with partialPath := .absent }, requests⟩
  | (none, transfer, requests) =>
    let (ending, files) := publishDownload attempt files.destination transfer
    ⟨ending, files, requests⟩

/-- A link in the place of the partial file is removed first. -/
def PartialPath.unlinked : PartialPath → PartialPath
  | .link => .absent
  | partialPath => partialPath

/-- `download_verified`. -/
def downloadVerified (attempt : DownloadAttempt) (files : DownloadFiles) : FinishedDownload :=
  if files.partialPath = .other then
    ⟨.failed "download partial path is not a regular file", files, []⟩
  else
    let files := { files with partialPath := files.partialPath.unlinked }
    match validatedInitialDownloadUrl attempt.url with
    | .error message => ⟨.failed message, files, []⟩
    | .ok originHost =>
      finishDownload attempt files
        (fetch attempt originHost (resumeFrom attempt.expectedSize files.partialPath))

end

/-! ### Receiving keeps the digest in step -/

/-- The digest was fed the file, the count is its length, and the file is not too long. -/
structure InStep (expectedSize : Nat) (transfer : Transfer) : Prop where
  digest : transfer.digest = transfer.file.getD []
  received : transfer.received = transfer.digest.length
  fits : transfer.received ≤ expectedSize

/-- The bytes of a body that came before the owner paused. -/
def acceptedBytes (body : List BodyChunk) : List UInt8 :=
  (body.takeWhile fun next => !next.signals.paused).flatMap (·.chunk)

theorem receive_inStep (expectedSize : Nat) (body : List BodyChunk) :
    ∀ {transfer : Transfer}, InStep expectedSize transfer →
      InStep expectedSize (receive expectedSize transfer body).2 := by
  induction body with
  | nil => exact fun inStep => inStep
  | cons next rest inductionHypothesis =>
    intro transfer inStep
    unfold receive
    split_ifs with paused cancelled empty excess
    · exact inStep
    · exact inStep
    · exact inductionHypothesis inStep
    · exact inStep
    · refine inductionHypothesis ⟨?_, ?_, Nat.not_lt.mp excess⟩
      · simp only [Option.getD_some, inStep.digest]
      · simp only [List.length_append, inStep.received]

theorem acceptedBytes_cons {next : BodyChunk} (running : ¬next.signals.paused = true)
    (rest : List BodyChunk) :
    acceptedBytes (next :: rest) = next.chunk ++ acceptedBytes rest := by
  unfold acceptedBytes
  rw [List.takeWhile_cons, if_pos (by simpa using running), List.flatMap_cons]

/-- A pause leaves the bytes before it. -/
theorem receive_paused (expectedSize : Nat) (body : List BodyChunk) :
    ∀ {transfer : Transfer}, (receive expectedSize transfer body).1 = some .paused →
      (receive expectedSize transfer body).2.file.getD [] =
        transfer.file.getD [] ++ acceptedBytes body := by
  induction body with
  | nil => exact fun halted => nomatch halted
  | cons next rest inductionHypothesis =>
    intro transfer halted
    unfold receive at halted ⊢
    split_ifs at halted ⊢ with paused cancelled empty excess
    · rw [acceptedBytes, List.takeWhile_cons, if_neg (by rw [paused]; decide), List.flatMap_nil,
        List.append_nil]
    · cases halted
    · rw [inductionHypothesis halted, acceptedBytes_cons paused, empty, List.nil_append]
    · cases halted
    · rw [inductionHypothesis halted, acceptedBytes_cons paused, Option.getD_some,
        List.append_assoc]

/-- The transfer a response goes on with: the one before, or none of it. -/
def openedFor (transfer : Transfer) (status : Nat) : Transfer :=
  if transfer.received ≠ 0 ∧ status = 206 then transfer else ⟨some [], [], 0⟩

variable {expectedSize : Nat} {transfer : Transfer}

theorem openedFor_inStep (inStep : InStep expectedSize transfer) (status : Nat) :
    InStep expectedSize (openedFor transfer status) := by
  unfold openedFor
  split_ifs
  · exact inStep
  · exact ⟨rfl, rfl, Nat.zero_le _⟩

theorem openPartial_restart (inStep : InStep expectedSize transfer) (status : Nat) :
    openPartial (restart transfer status) = openedFor transfer status := by
  unfold openPartial restart openedFor
  by_cases fresh : transfer.received = 0
  · have nothing : transfer.digest = [] :=
      List.eq_nil_of_length_eq_zero (inStep.received.symm.trans fresh)
    simp [fresh, nothing]
  · by_cases ranged : status = 206
    · simp [fresh, ranged]
    · simp [fresh, ranged]

/-- A response either fails or is received into what it goes on with. -/
theorem receiveResponse_cases (inStep : InStep expectedSize transfer) (response : Response) :
    (∃ message, (receiveResponse expectedSize transfer response).1 = some (.failed message)) ∨
      receiveResponse expectedSize transfer response =
        receive expectedSize (openedFor transfer response.status) response.body := by
  unfold receiveResponse
  split_ifs
  · exact .inl ⟨_, rfl⟩
  · dsimp only
    split
    · exact .inl ⟨_, rfl⟩
    · unfold receiveBody
      rw [openPartial_restart inStep]
      split
      · rename_i filled filledBody
        split_ifs
        · exact .inl ⟨_, rfl⟩
        · exact .inr filledBody.symm
      · exact .inr rfl

/-! ### What is resumed from -/

/-- The bytes of the partial file that an attempt keeps. -/
def keptBytes (expectedSize : Nat) : PartialPath → List UInt8
  | .file content => if expectedSize < content.length then [] else content
  | _ => []

theorem resumeFrom_unlinked (expectedSize : Nat) (partialPath : PartialPath) :
    resumeFrom expectedSize partialPath.unlinked = resumeFrom expectedSize partialPath := by
  cases partialPath with
  | file content => rfl
  | absent => rfl
  | link => rfl
  | other => rfl

theorem unlinked_file {partialPath : PartialPath} {content : List UInt8} :
    partialPath.unlinked = .file content ↔ partialPath = .file content := by
  cases partialPath with
  | file held => rfl
  | absent => rfl
  | link => exact ⟨nofun, nofun⟩
  | other => rfl

theorem resumeFrom_inStep (expectedSize : Nat) (partialPath : PartialPath) :
    InStep expectedSize (resumeFrom expectedSize partialPath) := by
  have nothing : InStep expectedSize ⟨none, [], 0⟩ := ⟨rfl, rfl, Nat.zero_le _⟩
  cases partialPath with
  | file content =>
    unfold resumeFrom
    dsimp only
    split_ifs with long
    · exact nothing
    · exact ⟨rfl, rfl, Nat.not_lt.mp long⟩
  | absent => exact nothing
  | link => exact nothing
  | other => exact nothing

theorem resumeFrom_file (expectedSize : Nat) (partialPath : PartialPath) :
    (resumeFrom expectedSize partialPath).file.getD [] = keptBytes expectedSize partialPath := by
  cases partialPath with
  | file content =>
    unfold resumeFrom keptBytes
    dsimp only
    split_ifs
    · rfl
    · rfl
  | absent => rfl
  | link => rfl
  | other => rfl

/-- The bytes at a path that holds a file or nothing. -/
def PartialPath.bytes : PartialPath → List UInt8
  | .file content => content
  | _ => []

theorem ofFile_bytes (file : Option (List UInt8)) :
    (PartialPath.ofFile file).bytes = file.getD [] := by
  cases file with
  | none => rfl
  | some content => rfl

/-! ### Following redirects -/

/-- The reply that is no redirect. -/
def answer : List Reply → Option Response
  | some response :: later =>
    if response.status ∈ downloadRedirectStatuses then answer later else some response
  | _ => none

section

variable [DownloadTables]

open DownloadTables

/-- The requests of an attempt either fail or receive the reply that is no redirect. -/
theorem request_cases (expectedSize : Nat) (originHost : String) (transfer : Transfer)
    (replies : List Reply) : ∀ (redirects : Nat) (currentUrl : String),
      (∃ message, (request expectedSize originHost transfer redirects currentUrl replies).1 =
        some (.failed message)) ∨
      ∃ response, answer replies = some response ∧
        ((request expectedSize originHost transfer redirects currentUrl replies).1,
          (request expectedSize originHost transfer redirects currentUrl replies).2.1) =
            receiveResponse expectedSize transfer response := by
  induction replies with
  | nil => exact fun _ _ => .inl ⟨_, rfl⟩
  | cons reply later inductionHypothesis =>
    intro redirects currentUrl
    cases reply with
    | none => exact .inl ⟨_, rfl⟩
    | some response =>
      unfold request answer
      split_ifs with redirect exceeded missing
      · exact .inl ⟨_, rfl⟩
      · exact .inl ⟨_, rfl⟩
      · split
        · exact .inl ⟨_, rfl⟩
        · exact inductionHypothesis _ _
      · exact .inr ⟨response, rfl, rfl⟩

/-- A URL an asset of an origin may be asked for at. -/
def ApprovedUrl (originHost url : String) : Prop :=
  ∃ parsed port, urlsplitText url = .ok parsed ∧ parsed.port = .ok port ∧
    casefold parsed.scheme = "https" ∧ approvedHost originHost (foldedHost parsed) = true ∧
    port ∈ [none, some 443] ∧ parsed.hasCredentials = false

theorem approvedUrl_of_initial {url originHost : String}
    (validated : validatedInitialDownloadUrl url = .ok originHost) :
    ApprovedUrl originHost url := by
  unfold validatedInitialDownloadUrl at validated
  simp only [bind_ok_iff, mapError_ok_iff, refuseWhen_ok_iff, pure_ok_iff] at validated
  obtain ⟨parsed, split, port, ported, _, accepted, same⟩ := validated
  push Not at accepted
  obtain ⟨scheme, initial, standard, anonymous, -, -⟩ := accepted
  refine ⟨parsed, port, split, ported, scheme, ?_, standard, Bool.eq_false_iff.mpr anonymous⟩
  rw [same] at initial ⊢
  rcases List.mem_cons.mp initial with rfl | other
  · decide
  · obtain rfl := List.mem_singleton.mp other
    decide

theorem approvedUrl_of_redirect {currentUrl location originHost url : String}
    (validated : validatedRedirectUrl currentUrl location originHost = .ok url) :
    ApprovedUrl originHost url := by
  unfold validatedRedirectUrl at validated
  simp only [bind_ok_iff, mapError_ok_iff, refuseWhen_ok_iff, pure_ok_iff] at validated
  obtain ⟨_, -, parsed, split, port, ported, _, accepted, _, approved, rfl⟩ := validated
  push Not at accepted
  obtain ⟨scheme, standard, anonymous, -⟩ := accepted
  exact ⟨parsed, port, split, ported, scheme, Bool.of_not_eq_false approved, standard,
    Bool.eq_false_iff.mpr anonymous⟩

/-- Every URL asked for is approved, and no more redirects are followed than allowed. -/
theorem request_approved (expectedSize : Nat) (originHost : String) (transfer : Transfer)
    (replies : List Reply) : ∀ {redirects : Nat} {currentUrl : String},
      redirects ≤ maxDownloadRedirects → ApprovedUrl originHost currentUrl →
      (∀ url ∈ (request expectedSize originHost transfer redirects currentUrl replies).2.2,
        ApprovedUrl originHost url) ∧
      redirects + (request expectedSize originHost transfer redirects currentUrl replies).2.2.length
        ≤ maxDownloadRedirects + 1 := by
  induction replies with
  | nil =>
    intro redirects currentUrl few approved
    exact ⟨by simpa [request] using approved, Nat.succ_le_succ few⟩
  | cons reply later inductionHypothesis =>
    intro redirects currentUrl few approved
    have one : (∀ url ∈ [currentUrl], ApprovedUrl originHost url) ∧
        redirects + [currentUrl].length ≤ maxDownloadRedirects + 1 :=
      ⟨by simpa using approved, Nat.succ_le_succ few⟩
    cases reply with
    | none => exact one
    | some response =>
      unfold request
      split_ifs with redirect exceeded missing
      · exact one
      · exact one
      · split
        · exact one
        · rename_i nextUrl validated
          obtain ⟨others, fewer⟩ := inductionHypothesis (Nat.not_lt.mp exceeded)
            (approvedUrl_of_redirect validated)
          refine ⟨List.forall_mem_cons.mpr ⟨approved, others⟩, ?_⟩
          rw [List.length_cons, ← Nat.add_assoc, Nat.add_right_comm]
          exact fewer
      · exact one

/-! ### One attempt -/

/-- What an attempt that ends in a pause leaves: what it resumed from, and the chunks it
accepted. A body that does not honour the range is a download from the start. -/
def pausedBytes (attempt : DownloadAttempt) (before : PartialPath) : List UInt8 :=
  if attempt.signals.paused then keptBytes attempt.expectedSize before
  else match answer attempt.replies with
    | some response =>
      (if response.status = 206 then keptBytes attempt.expectedSize before else []) ++
        acceptedBytes response.body
    | none => []

/-- What an attempt guarantees, whatever the server and the owner do. -/
structure Guaranteed (attempt : DownloadAttempt) (before : DownloadFiles)
    (finished : FinishedDownload) : Prop where
  published : finished.ending = .published → ∃ content,
    finished.files = ⟨.absent, some content⟩ ∧ content.length = attempt.expectedSize ∧
      sha256 content = casefold attempt.expectedSha256
  destination : finished.ending ≠ .published →
    finished.files.destination = before.destination
  paused : finished.ending = .paused →
    finished.files.partialPath.bytes = pausedBytes attempt before.partialPath ∧
      finished.files.partialPath.bytes.length ≤ attempt.expectedSize
  failed : ∀ message, finished.ending = .failed message →
    (∃ originHost, validatedInitialDownloadUrl attempt.url = .ok originHost) →
    ∀ content, finished.files.partialPath ≠ .file content
  refused : (∀ originHost, validatedInitialDownloadUrl attempt.url ≠ .ok originHost) →
    (∃ message, finished.ending = .failed message) ∧ ∀ content,
      finished.files.partialPath = .file content ↔ before.partialPath = .file content
  requests : ∀ url ∈ finished.requests, ∃ originHost,
    validatedInitialDownloadUrl attempt.url = .ok originHost ∧ ApprovedUrl originHost url
  redirects : finished.requests.length ≤ maxDownloadRedirects + 1

variable {attempt : DownloadAttempt}

/-- A download that is not stopped, or is paused, is in step. -/
theorem fetch_inStep (inStep : InStep attempt.expectedSize transfer) (originHost : String) :
    (∃ message, (fetch attempt originHost transfer).1 = some (.failed message)) ∨
      InStep attempt.expectedSize (fetch attempt originHost transfer).2.1 := by
  unfold fetch
  split_ifs
  · exact .inr inStep
  · exact .inl ⟨_, rfl⟩
  · exact .inr inStep
  · rcases request_cases attempt.expectedSize originHost transfer attempt.replies 0 attempt.url
      with failed | ⟨response, -, received⟩
    · exact .inl failed
    · rcases receiveResponse_cases inStep response with failed | body
      · rw [← received] at failed
        exact .inl failed
      · rw [body] at received
        have kept := receive_inStep _ response.body (openedFor_inStep inStep response.status)
        rw [← received] at kept
        exact .inr kept

variable {originHost : String}

/-- A pause leaves what the attempt resumed from, and the chunks it accepted. -/
theorem fetch_paused {before : PartialPath}
    (halted : (fetch attempt originHost (resumeFrom attempt.expectedSize before)).1 =
      some .paused) :
    (fetch attempt originHost (resumeFrom attempt.expectedSize before)).2.1.file.getD [] =
      pausedBytes attempt before := by
  have inStep := resumeFrom_inStep attempt.expectedSize before
  have kept := resumeFrom_file attempt.expectedSize before
  unfold fetch at halted ⊢
  unfold pausedBytes
  split_ifs at halted ⊢ with paused cancelled complete
  · exact kept
  · cases halted
  · rcases request_cases attempt.expectedSize originHost _ attempt.replies 0 attempt.url with
      ⟨message, failed⟩ | ⟨response, answered, received⟩
    · rw [failed] at halted
      cases halted
    · rcases receiveResponse_cases inStep response with ⟨message, failed⟩ | body
      · rw [← received] at failed
        rw [failed] at halted
        cases halted
      · rw [body] at received
        have pausedBody := receive_paused attempt.expectedSize response.body
          (congrArg Prod.fst received.symm ▸ halted)
        rw [answered]
        rw [← received] at pausedBody
        rw [pausedBody]
        refine congrArg (· ++ acceptedBytes response.body) ?_
        unfold openedFor
        by_cases ranged : response.status = 206
        · rw [if_pos ranged, ← kept]
          by_cases fresh : (resumeFrom attempt.expectedSize before).received = 0
          · rw [if_neg fun resumed => resumed.1 fresh, ← inStep.digest]
            exact (List.eq_nil_of_length_eq_zero (inStep.received.symm.trans fresh)).symm
          · rw [if_pos ⟨fresh, ranged⟩]
        · rw [if_neg ranged, if_neg fun resumed => ranged resumed.2]
          rfl

theorem fetch_approved
    (validated : validatedInitialDownloadUrl attempt.url = .ok originHost) (transfer : Transfer) :
    (∀ url ∈ (fetch attempt originHost transfer).2.2, ApprovedUrl originHost url) ∧
      (fetch attempt originHost transfer).2.2.length ≤ maxDownloadRedirects + 1 := by
  have unasked : (∀ url ∈ ([] : List String), ApprovedUrl originHost url) ∧
      ([] : List String).length ≤ maxDownloadRedirects + 1 := ⟨nofun, Nat.zero_le _⟩
  unfold fetch
  split_ifs
  · exact unasked
  · exact unasked
  · exact unasked
  · obtain ⟨approved, few⟩ := request_approved attempt.expectedSize originHost transfer
      attempt.replies (Nat.zero_le _) (approvedUrl_of_initial validated)
    exact ⟨approved, by rwa [Nat.zero_add] at few⟩

/-- What is published is the partial file, and only with the size and the digest expected. -/
theorem publishDownload_cases
    (inStep : InStep attempt.expectedSize transfer) (destination : Option (List UInt8)) :
    (∃ message, publishDownload attempt destination transfer =
      (.failed message, ⟨.absent, destination⟩)) ∨
    ∃ content, publishDownload attempt destination transfer =
        (.published, ⟨.absent, some content⟩) ∧
      content.length = attempt.expectedSize ∧
      sha256 content = casefold attempt.expectedSha256 := by
  unfold publishDownload
  split_ifs with short altered replaced
  · exact .inl ⟨_, rfl⟩
  · exact .inl ⟨_, rfl⟩
  · split
    · rename_i content held
      have fed : transfer.digest = content := by rw [inStep.digest, held]; rfl
      refine .inr ⟨content, rfl, ?_, ?_⟩
      · rw [← fed, ← inStep.received]
        exact Decidable.not_not.mp short
      · rw [← fed]
        exact Decidable.not_not.mp altered
    · exact .inl ⟨_, rfl⟩
  · split
    · exact .inl ⟨_, rfl⟩
    · exact .inl ⟨_, rfl⟩

/-- A download from an approved origin meets its guarantee. -/
theorem finishDownload_guaranteed {before : DownloadFiles}
    (validated : validatedInitialDownloadUrl attempt.url = .ok originHost)
    {outcome : Option Halt × Transfer × List String}
    (fetched : fetch attempt originHost (resumeFrom attempt.expectedSize before.partialPath) =
      outcome) :
    Guaranteed attempt before (finishDownload attempt
      { before with partialPath := before.partialPath.unlinked } outcome) := by
  obtain ⟨approved, few⟩ := fetch_approved validated
    (resumeFrom attempt.expectedSize before.partialPath)
  have inStep := fetch_inStep (resumeFrom_inStep attempt.expectedSize before.partialPath)
    originHost
  have requested : ∀ url ∈ outcome.2.2, ∃ originHost,
      validatedInitialDownloadUrl attempt.url = .ok originHost ∧ ApprovedUrl originHost url := by
    intro url asked
    exact ⟨originHost, validated, approved url (fetched ▸ asked)⟩
  have followed : outcome.2.2.length ≤ maxDownloadRedirects + 1 := fetched ▸ few
  have accepted : ∀ {goal : Prop}, (∀ originHost,
      validatedInitialDownloadUrl attempt.url ≠ .ok originHost) → goal :=
    fun refused => absurd validated (refused originHost)
  rw [fetched] at inStep
  obtain ⟨halt, transfer, requests⟩ := outcome
  cases halt with
  | none =>
    have held : InStep attempt.expectedSize transfer := by
      rcases inStep with ⟨message, failed⟩ | held
      · cases failed
      · exact held
    rcases publishDownload_cases held before.destination with
      ⟨message, failed⟩ | ⟨content, published, size, digest⟩
    · have finished : finishDownload attempt
          { before with partialPath := before.partialPath.unlinked } (none, transfer, requests) =
          ⟨.failed message, ⟨.absent, before.destination⟩, requests⟩ := by
        simp only [finishDownload, failed]
      rw [finished]
      exact ⟨nofun, fun _ => rfl, nofun, fun _ _ _ _ => nofun, accepted, requested, followed⟩
    · have finished : finishDownload attempt
          { before with partialPath := before.partialPath.unlinked } (none, transfer, requests) =
          ⟨.published, ⟨.absent, some content⟩, requests⟩ := by
        simp only [finishDownload, published]
      rw [finished]
      exact ⟨fun _ => ⟨content, rfl, size, digest⟩, fun unpublished => absurd rfl unpublished,
        nofun, nofun, accepted, requested, followed⟩
  | some stop =>
    cases stop with
    | failed message =>
      exact ⟨nofun, fun _ => rfl, nofun, fun _ _ _ _ => nofun, accepted, requested, followed⟩
    | paused =>
      have left := fetch_paused (congrArg Prod.fst fetched)
      have held : InStep attempt.expectedSize transfer := by
        rcases inStep with ⟨message, failed⟩ | held
        · cases failed
        · exact held
      rw [fetched] at left
      refine ⟨nofun, fun _ => rfl, fun _ => ?_, nofun, accepted, requested, followed⟩
      dsimp only [finishDownload]
      rw [ofFile_bytes]
      refine ⟨left, ?_⟩
      rw [← held.digest, ← held.received]
      exact held.fits

/-- `download_verified` meets its guarantee from any files. -/
theorem downloadVerified_guaranteed (attempt : DownloadAttempt) (before : DownloadFiles) :
    Guaranteed attempt before (downloadVerified attempt before) := by
  unfold downloadVerified
  split_ifs with special
  · refine ⟨nofun, fun _ => rfl, nofun, fun _ _ _ content => ?_,
      fun _ => ⟨⟨_, rfl⟩, fun _ => .rfl⟩, nofun, Nat.zero_le _⟩
    rw [special]
    exact nofun
  · dsimp only
    split
    · rename_i message refused
      refine ⟨nofun, fun _ => rfl, nofun, fun _ _ validated => ?_,
        fun _ => ⟨⟨_, rfl⟩, fun _ => unlinked_file⟩, nofun, Nat.zero_le _⟩
      obtain ⟨originHost, accepted⟩ := validated
      rw [refused] at accepted
      cases accepted
    · rename_i originHost validated
      rw [resumeFrom_unlinked]
      exact finishDownload_guaranteed validated rfl

/-! ### Any number of attempts -/

/-- The attempts one after the other, each with the files it found and how it ended. -/
def attempts (files : DownloadFiles) :
    List DownloadAttempt → List (DownloadAttempt × DownloadFiles × FinishedDownload)
  | [] => []
  | attempt :: later =>
    (attempt, files, downloadVerified attempt files) ::
      attempts (downloadVerified attempt files).files later

/-- The files after the attempts. -/
def filesAfter (files : DownloadFiles) (made : List DownloadAttempt) : DownloadFiles :=
  made.foldl (fun files attempt => (downloadVerified attempt files).files) files

/-- In any run of attempts, each meets its guarantee, and the destination is in the end what it
was in the beginning or what an attempt published. -/
theorem attempts_guaranteed (files : DownloadFiles) (made : List DownloadAttempt) :
    (∀ step ∈ attempts files made, Guaranteed step.1 step.2.1 step.2.2) ∧
      ((filesAfter files made).destination = files.destination ∨
        ∃ attempt ∈ made, ∃ content, (filesAfter files made).destination = some content ∧
          content.length = attempt.expectedSize ∧
          sha256 content = casefold attempt.expectedSha256) := by
  induction made generalizing files with
  | nil => exact ⟨nofun, .inl rfl⟩
  | cons attempt later inductionHypothesis =>
    have here := downloadVerified_guaranteed attempt files
    obtain ⟨others, standing⟩ := inductionHypothesis (downloadVerified attempt files).files
    refine ⟨List.forall_mem_cons.mpr ⟨here, others⟩, ?_⟩
    have step : filesAfter files (attempt :: later) =
        filesAfter (downloadVerified attempt files).files later := rfl
    rw [step]
    rcases standing with same | ⟨publisher, member, content, replaced, verified⟩
    · rw [same]
      by_cases published : (downloadVerified attempt files).ending = .published
      · obtain ⟨content, left, verified⟩ := here.published published
        refine .inr ⟨attempt, List.mem_cons_self, content, ?_, verified⟩
        rw [left]
      · exact .inl (here.destination published)
    · exact .inr ⟨publisher, List.mem_cons_of_mem _ member, content, replaced, verified⟩

end

/-! ### A refused address -/

/-- The tables on lower-case ASCII addresses, with a digest that nothing here looks at. -/
@[reducible] def DownloadTables.plain : DownloadTables where
  toTextTables := .plain
  casefold := id
  urljoin := fun _ url => .ok url
  sha256 := fun _ => ""

/-- An address that is no catalog origin fails the download before the partial file of an
earlier attempt is touched: not every failure removes it. -/
theorem refused_address_keeps_partial :
    let attempt : DownloadAttempt :=
      { url := "http://example.invalid/model.gguf", expectedSha256 := "", expectedSize := 2 }
    let finished := @downloadVerified .plain attempt ⟨.file [1], none⟩
    (∃ message, finished.ending = .failed message) ∧
      finished.files.partialPath = .file [1] := by
  refine ⟨⟨"download requires an approved HTTPS catalog origin", ?_⟩, ?_⟩
  · decide +kernel
  · decide +kernel

end CareerOS
