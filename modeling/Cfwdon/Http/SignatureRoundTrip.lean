import Cfwdon.Http.Signatures

/-!
# What a signature header says when it arrives

The sender puts the id of its key, the names of the signed headers and the signature into
one header, each between quotes and separated by commas.  The receiver splits at every
comma and takes the quotes off, and builds the signed text from the headers of the
request that arrived.
-/

namespace Cfwdon.Http

open Library Federation

def quotedPart (name value : String) : String :=
  name ++ "=\"" ++ value ++ "\""

theorem signatureHeader_eq (keyId names sig : String) :
    signatureHeader keyId names sig
      = quotedPart "keyId" keyId ++ "," ++ (quotedPart "algorithm" "rsa-sha256" ++ ","
        ++ (quotedPart "headers" names ++ "," ++ quotedPart "signature" sig)) := by
  rw [← String.toList_inj]
  simp [signatureHeader, quotedPart]

theorem splitOn_comma_append (front back : String) :
    splitOn (front ++ "," ++ back) "," = splitOn front "," ++ splitOn back "," := by
  simp [splitOn, occurrences_append]

theorem splitOn_comma_of_notMem {text : String} (absent : ',' ∉ text.toList) :
    splitOn text "," = [text] := by
  simp [splitOn, occurrences_of_notMem absent]

theorem comma_notMem_of_mem_splitOn {text piece : String} (mem : piece ∈ splitOn text ",") :
    ',' ∉ piece.toList := by
  obtain ⟨chars, got, rfl⟩ := List.mem_map.mp mem
  rw [String.toList_ofList]
  exact notMem_of_mem_occurrences got

variable (value : String) (parts : SignatureParts)

theorem trimMatches_quoted :
    trimMatches (· == '"') ("\"" ++ value ++ "\"") = trimMatches (· == '"') value := by
  rw [← String.toList_inj]
  simp only [trimMatches, String.toList_ofList, String.toList_append]
  show ((('"' :: (value.toList ++ ['"'])).dropWhile _).reverse.dropWhile _).reverse = _
  rw [List.dropWhile_cons, if_pos (by rfl), List.dropWhile_append]
  split_ifs with gone
  · rw [List.isEmpty_iff] at gone
    rw [gone]
    rfl
  · rw [List.reverse_append, List.reverse_singleton, List.singleton_append, List.dropWhile_cons,
      if_pos (by rfl)]

theorem trim_quoted : trim ("\"" ++ value ++ "\"") = "\"" ++ value ++ "\"" := by
  apply trimMatches_eq_self_iff.mpr
  constructor
  · intro c first
    have eq : c = '"' := by simpa [eq_comm] using first
    rw [eq]
    rfl
  · intro c last
    rw [String.toList_append, List.getLast?_append] at last
    have eq : c = '"' := by simpa [eq_comm] using last
    rw [eq]
    rfl

/-- A name of a part: a word without `=`. -/
def PartName (name : String) : Prop :=
  ∀ c ∈ name.toList, isWhitespace c = false ∧ c ≠ '='

variable {name : String} {url : Url} {req : SignedRequest} {domain date : String}

theorem trim_quotedPart (word : PartName name) (value : String) :
    trim (quotedPart name value) = quotedPart name value := by
  apply trimMatches_eq_self_iff.mpr
  constructor
  · intro c first
    cases letters : name.toList with
    | nil =>
      have eq : c = '=' := by simpa [quotedPart, letters, eq_comm] using first
      rw [eq]
      rfl
    | cons letter rest =>
      have eq : c = letter := by simpa [quotedPart, letters, eq_comm] using first
      rw [eq]
      exact (word letter (by rw [letters]; exact List.mem_cons_self ..)).1
  · intro c last
    rw [quotedPart, String.toList_append, List.getLast?_append] at last
    have eq : c = '"' := by simpa [eq_comm] using last
    rw [eq]
    rfl

theorem splitOnce_quotedPart (word : PartName name) (value : String) :
    splitOnce (quotedPart name value) '=' = some (name, "\"" ++ value ++ "\"") := by
  apply splitOnce_of_toList
  · simp [quotedPart]
  · exact fun mem => (word '=' mem).2 rfl

theorem trim_partName (word : PartName name) : trim name = name :=
  trimMatches_of_forall fun c mem => (word c mem).1

theorem readPart_quotedPart (word : PartName name) (value : String)
    (parts : SignatureParts) :
    readSignaturePart parts (quotedPart name value)
      = (let value := trimMatches (· == '"') value
        let name := toAsciiLowercase name
        if name = "keyid" then .ok { parts with keyId := some value }
        else if name = "headers" then
          .ok { parts with headers := some ((splitWhitespace value).map toAsciiLowercase) }
        else if name = "signature" then
          match Base64.decode value with
          | some signature => .ok { parts with signature := some signature }
          | none => .error "invalid Signature header encoding"
        else .ok parts) := by
  rw [readSignaturePart, trim_quotedPart word, splitOnce_quotedPart word]
  cases decoded : Base64.decode (trimMatches (· == '"') value) with
  | none | some signature =>
    simp only [trim_quoted, trimMatches_quoted, trim_partName word, decoded]

theorem partName_of_decide
    (word : (name.toList.all fun c => !isWhitespace c && c != '=') = true) : PartName name := by
  intro c mem
  have each := List.all_eq_true.mp word c mem
  simpa using each

theorem readPart_keyId (value : String) :
    readSignaturePart parts (quotedPart "keyId" value)
      = .ok { parts with keyId := some (trimMatches (· == '"') value) } := by
  rw [readPart_quotedPart (partName_of_decide (by decide))]
  rfl

theorem readPart_algorithm (value : String) :
    readSignaturePart parts (quotedPart "algorithm" value) = .ok parts := by
  rw [readPart_quotedPart (partName_of_decide (by decide))]
  rfl

theorem readPart_headers (value : String) :
    readSignaturePart parts (quotedPart "headers" value)
      = (let value := trimMatches (· == '"') value
        .ok { parts with headers := some ((splitWhitespace value).map toAsciiLowercase) }) := by
  rw [readPart_quotedPart (partName_of_decide (by decide))]
  rfl

theorem notMem_encode {c : Char} (other : Base64.isEncoded c = false) (bytes : List UInt8) :
    c ∉ (Base64.encode bytes).toList := by
  intro mem
  rw [Base64.mem_encode mem] at other
  cases other

theorem readPart_signature (bytes : List UInt8) :
    readSignaturePart parts (quotedPart "signature" (Base64.encode bytes))
      = .ok { parts with signature := some bytes } := by
  rw [readPart_quotedPart (partName_of_decide (by decide))]
  have bare : trimMatches (· == '"') (Base64.encode bytes) = Base64.encode bytes := by
    apply trimMatches_of_forall
    intro c member
    by_contra quote
    have same : c = '"' := by simpa using quote
    exact notMem_encode (by decide) bytes (same ▸ member)
  simp only [bare, Base64.decode_encode]
  rfl

/-! ## Reading the header -/

theorem keyId_of_readPart {parts next : SignatureParts} {part : String}
    (read : readSignaturePart parts part = .ok next) :
    next.keyId = parts.keyId
      ∨ ∃ keyId, next.keyId = some keyId ∧ ∀ c ∈ keyId.toList, c ∈ part.toList := by
  rw [readSignaturePart] at read
  split at read
  · cases read
    exact .inl rfl
  · rename_i name rawValue split
    dsimp only at read
    split_ifs at read
    · cases read
      refine .inr ⟨_, rfl, fun c mem => ?_⟩
      exact mem_of_mem_trimMatches (mem_of_splitOnce split
        (mem_of_mem_trimMatches (mem_of_mem_trimMatches mem)))
    · cases read
      exact .inl rfl
    · split at read
      · cases read
        exact .inl rfl
      · cases read
    · cases read
      exact .inl rfl

theorem comma_notMem_of_foldlM {pieces : List String} {first last : SignatureParts}
    (absent : ∀ piece ∈ pieces, ',' ∉ piece.toList)
    (start : ∀ keyId, first.keyId = some keyId → ',' ∉ keyId.toList)
    (read : pieces.foldlM readSignaturePart first = .ok last) :
    ∀ keyId, last.keyId = some keyId → ',' ∉ keyId.toList := by
  induction pieces generalizing first with
  | nil =>
    cases read
    exact start
  | cons piece rest ih =>
    rw [List.foldlM_cons] at read
    cases step : readSignaturePart first piece with
    | error error => rw [step] at read; cases read
    | ok next =>
      rw [step] at read
      refine ih (fun piece mem => absent piece (List.mem_cons_of_mem _ mem)) ?_ read
      intro keyId got
      rcases keyId_of_readPart step with eq | ⟨read, taken, within⟩
      · exact start keyId (eq ▸ got)
      · rw [taken] at got
        cases got
        exact fun comma => absent piece (List.mem_cons_self ..) (within _ comma)

/-- **No key id that the receiver reads has a comma.** -/
theorem comma_notMem_of_parse {header : String} {parsed : ParsedSignatureHeader}
    (read : parseSignatureHeader header = .ok parsed) : ',' ∉ parsed.keyId.toList := by
  rw [parseSignatureHeader] at read
  cases folded : (splitOn header ",").foldlM readSignaturePart ⟨none, none, none⟩ with
  | error error => rw [folded] at read; cases read
  | ok parts =>
    rw [folded] at read
    have bare := comma_notMem_of_foldlM (fun piece mem => comma_notMem_of_mem_splitOn mem)
      (by intro keyId got; cases got) folded
    obtain ⟨keyId, headers, sig⟩ := parts
    cases keyId with
    | none => cases read
    | some keyId =>
      cases headers with
      | none => cases read
      | some headers =>
        cases sig with
        | none => cases read
        | some sig =>
          cases read
          exact bare keyId rfl

def HeaderNames (names : String) : Prop :=
  ',' ∉ names.toList ∧ trimMatches (· == '"') names = names

instance (names : String) : Decidable (HeaderNames names) :=
  inferInstanceAs (Decidable (_ ∧ _))

theorem parse_signatureHeader {keyId names : String} (bytes : List UInt8)
    (plain : HeaderNames names) (absent : ',' ∉ keyId.toList) :
    parseSignatureHeader (signatureHeader keyId names (Base64.encode bytes))
      = .ok ⟨trimMatches (· == '"') keyId, (splitWhitespace names).map toAsciiLowercase,
          bytes⟩ := by
  have signatureBare := notMem_encode (c := ',') (by decide) bytes
  have pieces : splitOn (signatureHeader keyId names (Base64.encode bytes)) ","
      = [quotedPart "keyId" keyId, quotedPart "algorithm" "rsa-sha256", quotedPart "headers" names,
          quotedPart "signature" (Base64.encode bytes)] := by
    rw [signatureHeader_eq, splitOn_comma_append, splitOn_comma_append, splitOn_comma_append,
      splitOn_comma_of_notMem, splitOn_comma_of_notMem, splitOn_comma_of_notMem,
      splitOn_comma_of_notMem]
    · rfl
    · simp [quotedPart, signatureBare]
    · simp [quotedPart, plain.1]
    · decide
    · simp [quotedPart, absent]
  rw [parseSignatureHeader, pieces]
  simp only [List.foldlM_cons, List.foldlM_nil, readPart_keyId,
    readPart_algorithm, readPart_headers, readPart_signature, plain.2]
  rfl

/-- **A header is read back exactly if the key id has no comma and no quotes at its
ends.** -/
theorem parse_signatureHeader_iff {keyId names : String} (bytes : List UInt8)
    (plain : HeaderNames names) :
    parseSignatureHeader (signatureHeader keyId names (Base64.encode bytes))
        = .ok ⟨keyId, (splitWhitespace names).map toAsciiLowercase, bytes⟩
      ↔ ',' ∉ keyId.toList ∧ trimMatches (· == '"') keyId = keyId := by
  constructor
  · intro read
    have absent : ',' ∉ keyId.toList := comma_notMem_of_parse read
    rw [parse_signatureHeader bytes plain absent] at read
    injection read with eq
    injection eq with sameKeyId
    exact ⟨absent, sameKeyId⟩
  · rintro ⟨absent, bare⟩
    rw [parse_signatureHeader bytes plain absent, bare]

/-! ## Headers that were set -/

variable {rules : HeaderRules}

theorem lookup_setHeader {name value : String} {headers next : Headers}
    (set : setHeader rules name value headers = .ok next) (key : String) :
    next.lookup key
      = if key = toAsciiLowercase name then some (trimMatches isHttpWhitespace value)
        else headers.lookup key := by
  rw [setHeader] at set
  split_ifs at set with ok
  cases set
  rw [List.lookup_cons]
  by_cases here : key = toAsciiLowercase name
  · rw [if_pos here, here, beq_self_eq_true]
  · rw [if_neg here, beq_false_of_ne here]
    dsimp only
    induction headers with
    | nil => rfl
    | cons entry rest ih =>
      obtain ⟨otherName, otherValue⟩ := entry
      rw [List.filter_cons, List.lookup_cons]
      by_cases eq : otherName = toAsciiLowercase name
      · have missed : (key == otherName) = false := beq_false_of_ne (eq ▸ here)
        rw [if_neg (by simpa using eq), ih, missed]
      · rw [if_pos (by simpa using eq), List.lookup_cons, ih]

theorem lookup_setHeaders {entries : List (String × String)} {headers final : Headers}
    (set : setHeaders rules entries headers = .ok final) (key : String) :
    final.lookup key
      = entries.foldl (fun got entry =>
          if key = toAsciiLowercase entry.1 then some (trimMatches isHttpWhitespace entry.2)
          else got) (headers.lookup key) := by
  induction entries generalizing headers with
  | nil =>
    cases set
    rfl
  | cons entry rest ih =>
    obtain ⟨name, value⟩ := entry
    rw [setHeaders] at set
    cases step : setHeader rules name value headers with
    | error error => rw [step] at set; cases set
    | ok next =>
      rw [step] at set
      rw [ih set, lookup_setHeader step, List.foldl_cons]

theorem trimmed_signatureHeader (keyId names signature : String) :
    trimMatches isHttpWhitespace (signatureHeader keyId names signature)
      = signatureHeader keyId names signature := by
  apply trimMatches_eq_self_iff.mpr
  constructor
  · intro c first
    have eq : c = 'k' := by simpa [signatureHeader, eq_comm] using first
    rw [eq]
    rfl
  · intro c last
    rw [signatureHeader, String.toList_append, List.getLast?_append] at last
    have eq : c = '"' := by simpa [eq_comm] using last
    rw [eq]
    rfl

/-! ## The signed text -/

theorem signingLines_get {target host date : String} {valueOf : String → Option String}
    (hostFound : valueOf "host" = some host) (dateFound : valueOf "date" = some date) :
    signingLines target valueOf ["(request-target)", "host", "date"]
      = .ok ("(request-target): " ++ target ++ "\nhost: " ++ host ++ "\ndate: " ++ date) := by
  have lines : ["(request-target)", "host", "date"].mapM (signingLine target valueOf)
      = .ok ["(request-target): " ++ target, "host: " ++ host, "date: " ++ date] := by
    simp only [List.mapM_cons, List.mapM_nil, signingLine, hostFound, dateFound]
    rfl
  rw [signingLines, lines, Except.map, joinWith_cons_cons, joinWith_cons_cons, joinWith_singleton]
  congr 1
  rw [← String.toList_inj]
  simp

theorem signingLines_post {target host date digest contentType : String}
    {valueOf : String → Option String} (hostFound : valueOf "host" = some host)
    (dateFound : valueOf "date" = some date) (digestFound : valueOf "digest" = some digest)
    (contentTypeFound : valueOf "content-type" = some contentType) :
    signingLines target valueOf signedPostHeaders
      = .ok ("(request-target): " ++ target ++ "\nhost: " ++ host ++ "\ndate: " ++ date
          ++ "\ndigest: " ++ digest ++ "\ncontent-type: " ++ contentType) := by
  have lines : signedPostHeaders.mapM (signingLine target valueOf)
      = .ok ["(request-target): " ++ target, "host: " ++ host, "date: " ++ date,
          "digest: " ++ digest, "content-type: " ++ contentType] := by
    simp only [signedPostHeaders, List.mapM_cons, List.mapM_nil, signingLine, hostFound,
      dateFound, digestFound, contentTypeFound]
    rfl
  rw [signingLines, lines, Except.map, joinWith_cons_cons, joinWith_cons_cons,
    joinWith_cons_cons, joinWith_cons_cons, joinWith_singleton]
  congr 1
  rw [← String.toList_inj]
  simp

theorem signedPostSigningString_eq (pathAndQuery host date digest contentType : String) :
    signedPostSigningString pathAndQuery host date digest contentType
      = .ok ("(request-target): post " ++ pathAndQuery ++ "\nhost: " ++ host ++ "\ndate: " ++ date
          ++ "\ndigest: " ++ digest ++ "\ncontent-type: " ++ contentType) := by
  have hostLower : toAsciiLowercase "host" = "host" := by decide
  have dateLower : toAsciiLowercase "date" = "date" := by decide
  have digestLower : toAsciiLowercase "digest" = "digest" := by decide
  have contentTypeLower : toAsciiLowercase "content-type" = "content-type" := by decide
  rw [signedPostSigningString, buildSignatureSigningStringFromParts]
  rw [@signingLines_post _ host date digest contentType]
  · congr 1
  · simp [hostLower]
  · simp [hostLower, dateLower]
  · simp [hostLower, dateLower, digestLower]
  · simp [hostLower, dateLower, digestLower, contentTypeLower]

theorem pathAndQuery_eq (path : url.path ≠ "") : url.pathAndQuery = arrivedPathAndQuery url := by
  rw [Url.pathAndQuery, arrivedPathAndQuery]
  cases url.query with
  | none => exact if_neg path
  | some query =>
    dsimp only
    split_ifs with short
    · rw [short.resolve_left path, ← String.toList_inj]
      simp
    · rfl

/-- A text with the host header of a URL agrees with one with its host exactly if the URL
names no port and what comes after agrees. -/
theorem hostHeader_line_iff {host : String} (named : url.hostStr = some host)
    (front arrived sent : String) :
    front ++ hostHeader url ++ "\ndate: " ++ arrived = front ++ host ++ "\ndate: " ++ sent
      ↔ url.port = none ∧ arrived = sent := by
  rw [hostHeader, named]
  cases url.port with
  | none =>
    constructor
    · intro eq
      exact ⟨rfl, (String.append_right_inj _).mp eq⟩
    · rintro ⟨-, rfl⟩
      rfl
  | some port =>
    constructor
    · intro eq
      rw [← String.toList_inj] at eq
      simp at eq
    · rintro ⟨none, -⟩
      cases none

/-- Two trimmed values in a text agree with the values exactly if nothing was trimmed. -/
theorem trimmed_pair_iff (drop : Char → Bool) (first second between post : String) :
    trimMatches drop first ++ between ++ trimMatches drop second ++ post
        = first ++ between ++ second ++ post
      ↔ trimMatches drop first = first ∧ trimMatches drop second = second := by
  constructor
  · intro eq
    have firstLength := (trimMatches_sublist drop first).length_le
    have secondLength := (trimMatches_sublist drop second).length_le
    have lengths := congrArg (fun text => text.toList.length) eq
    simp only [String.toList_append, List.length_append] at lengths
    exact ⟨trimMatches_of_length (by omega), trimMatches_of_length (by omega)⟩
  · rintro ⟨firstBare, secondBare⟩
    rw [firstBare, secondBare]

/-! ## Requests that are emitted -/

/-- What a request is signed for. -/
inductive Emission where
  | get (instanceDomain date : String)
  | post (date digest : String)

variable (rules) (parser : UrlParser) (signer : Signer)

def Emission.request : Emission → Url → Except String SignedRequest
  | .get instanceDomain date => signedGetRequest rules parser signer instanceDomain date
  | .post date digest => buildSignedPostRequest rules parser signer date digest

def Emission.signedNames : Emission → List String
  | .get .. => ["(request-target)", "host", "date"]
  | .post .. => signedPostHeaders

def Emission.signedValues : Emission → List String
  | .get _ date => [date]
  | .post date digest => [date, digest]

/-- The `Signature` header that arrives says what the sender put into it, and the receiver
builds the text that the sender signed. -/
def ReadsBack (names : List String) (request : SignedRequest) : Prop :=
  let sent : ParsedSignatureHeader := ⟨signer.keyId, names, signer.signature request.signed⟩
  ∃ header, getHeader request.arrives.headers "Signature" = some header
    ∧ parseSignatureHeader header = .ok sent
    ∧ buildSignatureSigningString parser request.arrives sent = .ok request.signed

/-- A URL as the parser makes it: its text is parsed to it, and it has a path. -/
structure Parsed (url : Url) : Prop where
  parse : parser.parse (trim url.text) = .ok url
  path : url.path ≠ ""

/-- The key id can stand between quotes in a list with commas, the URL names no port, and
the signed values have no whitespace around them. -/
structure SurvivesTransport (url : Url) (values : List String) : Prop where
  comma : ',' ∉ signer.keyId.toList
  quotes : trimMatches (· == '"') signer.keyId = signer.keyId
  port : url.port = none
  bare : ∀ value ∈ values, trimMatches isHttpWhitespace value = value

variable {rules parser signer}

theorem parseHttpUrlParts_ok {host pathAndQuery : String} (parsed : Parsed parser url)
    (parts : parseHttpUrlParts parser url.text = .ok (host, pathAndQuery)) :
    parseRemoteHttpUrl parser url.text = .ok url ∧ url.hostStr = some host
      ∧ pathAndQuery = arrivedPathAndQuery url := by
  rw [parseHttpUrlParts] at parts
  have read : parseRemoteHttpUrl parser url.text
      = if url.isHttp then .ok url
        else .error ("unsupported remote URL scheme " ++ url.scheme) := by
    rw [parseRemoteHttpUrl, parsed.parse]
  rw [read] at parts ⊢
  split_ifs at parts ⊢ with http
  · cases named : url.hostStr with
    | none =>
      simp only [named] at parts
      cases parts
    | some name =>
      simp only [named] at parts
      cases parts
      exact ⟨rfl, rfl, pathAndQuery_eq parsed.path⟩

theorem survives_iff {values : List String} :
    SurvivesTransport signer url values
      ↔ (',' ∉ signer.keyId.toList ∧ trimMatches (· == '"') signer.keyId = signer.keyId)
        ∧ url.port = none ∧ ∀ value ∈ values, trimMatches isHttpWhitespace value = value :=
  ⟨fun survives => ⟨⟨survives.comma, survives.quotes⟩, survives.port, survives.bare⟩,
    fun ⟨⟨comma, quotes⟩, port, bare⟩ => ⟨comma, quotes, port, bare⟩⟩

/-- What is read back of a request whose header and whose text at the receiver are
known. -/
theorem readsBack_iff {names : List String} {nameText arrivedText : String}
    (plain : HeaderNames nameText)
    (listed : (splitWhitespace nameText).map toAsciiLowercase = names)
    (got : getHeader req.arrives.headers "Signature"
      = some (signatureHeader signer.keyId nameText (signHttpSignature signer req.signed)))
    (built : buildSignatureSigningString parser req.arrives
        ⟨signer.keyId, names, signer.signature req.signed⟩ = .ok arrivedText) :
    ReadsBack parser signer names req
      ↔ (',' ∉ signer.keyId.toList ∧ trimMatches (· == '"') signer.keyId = signer.keyId)
        ∧ arrivedText = req.signed := by
  have header := @parse_signatureHeader_iff signer.keyId _ (signer.signature req.signed) plain
  rw [listed] at header
  rw [← header, ReadsBack, built, Except.ok.injEq]
  constructor
  · rintro ⟨text, eq, read, agree⟩
    rw [got] at eq
    cases eq
    exact ⟨read, agree⟩
  · rintro ⟨read, agree⟩
    exact ⟨_, got, read, agree⟩

theorem signedGetRequest_ok
    (parsed : Parsed parser url)
    (sent : signedGetRequest rules parser signer domain date url = .ok req) :
    ∃ host headers, url.hostStr = some host ∧ parseRemoteHttpUrl parser url.text = .ok url
      ∧ req = ⟨"GET", url, headers, signedGetSigningString (arrivedPathAndQuery url) host date⟩
      ∧ setHeaders rules
        [("Accept", activitypubAccept), ("User-Agent", instanceUserAgent domain),
          ("Date", date),
          ("Signature", signatureHeader signer.keyId "(request-target) host date"
            (signHttpSignature signer req.signed))] [] = .ok headers := by
  rw [signedGetRequest] at sent
  cases parts : parseHttpUrlParts parser url.text with
  | error error => rw [parts] at sent; cases sent
  | ok got =>
    obtain ⟨host, pathAndQuery⟩ := got
    obtain ⟨read, named, rfl⟩ := parseHttpUrlParts_ok parsed parts
    rw [parts] at sent
    simp only [bind, Except.bind] at sent
    split at sent
    · cases sent
    · rename_i headers set
      cases sent
      exact ⟨host, headers, named, read, rfl, set⟩

theorem buildSignedPostRequest_ok {date digest : String}
    (parsed : Parsed parser url)
    (sent : buildSignedPostRequest rules parser signer date digest url = .ok req) :
    ∃ host headers, url.hostStr = some host ∧ parseRemoteHttpUrl parser url.text = .ok url
      ∧ req = ⟨"POST", url, headers,
          "(request-target): post " ++ arrivedPathAndQuery url ++ "\nhost: " ++ host
            ++ "\ndate: " ++ date ++ "\ndigest: " ++ digest ++ "\ncontent-type: "
            ++ activitypubContentType⟩
      ∧ setHeaders rules
        [("Accept", activitypubAccept), ("Content-Type", activitypubContentType), ("Date", date),
          ("Digest", digest),
          ("Signature", signatureHeader signer.keyId
            "(request-target) host date digest content-type"
            (signHttpSignature signer req.signed))] [] = .ok headers := by
  rw [buildSignedPostRequest] at sent
  cases parts : parseHttpUrlParts parser url.text with
  | error error => rw [parts] at sent; cases sent
  | ok got =>
    obtain ⟨host, pathAndQuery⟩ := got
    obtain ⟨read, named, rfl⟩ := parseHttpUrlParts_ok parsed parts
    rw [parts] at sent
    simp only [bind, Except.bind, signedPostSigningString_eq] at sent
    split at sent
    · cases sent
    · rename_i headers set
      cases sent
      exact ⟨host, headers, named, read, rfl, set⟩

theorem signingString_arrives
    {sig : ParsedSignatureHeader}
    (read : parseRemoteHttpUrl parser req.url.text = .ok req.url) :
    buildSignatureSigningString parser req.arrives sig
      = signingLines (toAsciiLowercase req.method ++ " " ++ arrivedPathAndQuery req.url)
          (getHeader req.arrives.headers) sig.headers := by
  rw [buildSignatureSigningString, SignedRequest.arrives]
  simp only [read]

/-- A header that was set arrives under its name, unless it is the host. -/
theorem getHeader_arrives
    (other : toAsciiLowercase name ≠ "host") :
    getHeader req.arrives.headers name = req.headers.lookup (toAsciiLowercase name) := by
  rw [getHeader, SignedRequest.arrives, List.lookup_cons, beq_false_of_ne other]

theorem getHeader_arrives_host (req : SignedRequest) :
    getHeader req.arrives.headers "host" = some (hostHeader req.url) := by
  rfl

theorem readsBack_get_iff
    (parsed : Parsed parser url)
    (sent : signedGetRequest rules parser signer domain date url = .ok req) :
    ReadsBack parser signer ["(request-target)", "host", "date"] req
      ↔ SurvivesTransport signer url [date] := by
  obtain ⟨host, headers, named, read, eq, set⟩ := signedGetRequest_ok parsed sent
  have dateFound : getHeader req.arrives.headers "date"
      = some (trimMatches isHttpWhitespace date) := by
    rw [getHeader_arrives (by decide), eq, lookup_setHeaders set]
    simp [toAsciiLowercase]
  have signatureFound : getHeader req.arrives.headers "Signature"
      = some (signatureHeader signer.keyId "(request-target) host date"
          (signHttpSignature signer req.signed)) := by
    rw [getHeader_arrives (by decide), eq, lookup_setHeaders set, ← eq]
    simp [toAsciiLowercase, trimmed_signatureHeader]
  have built : buildSignatureSigningString parser req.arrives
      ⟨signer.keyId, ["(request-target)", "host", "date"], signer.signature req.signed⟩
        = .ok ("(request-target): " ++ (toAsciiLowercase "GET" ++ " " ++ arrivedPathAndQuery url)
          ++ "\nhost: " ++ hostHeader url ++ "\ndate: " ++ trimMatches isHttpWhitespace date) := by
    rw [signingString_arrives (by rw [eq]; exact read),
      signingLines_get (getHeader_arrives_host req) dateFound, eq]
  have target : "(request-target): " ++ (toAsciiLowercase "GET" ++ " " ++ arrivedPathAndQuery url)
      = "(request-target): get " ++ arrivedPathAndQuery url := by
    rw [← String.toList_inj]
    simp [toAsciiLowercase]
  rw [readsBack_iff (by decide) (by decide) signatureFound built, survives_iff,
    List.forall_mem_singleton, target, eq]
  exact and_congr_right fun _ => hostHeader_line_iff named
    ("(request-target): get " ++ arrivedPathAndQuery url ++ "\nhost: ") _ _

theorem readsBack_post_iff {date digest : String}
    (parsed : Parsed parser url)
    (sent : buildSignedPostRequest rules parser signer date digest url = .ok req) :
    ReadsBack parser signer signedPostHeaders req
      ↔ SurvivesTransport signer url [date, digest] := by
  obtain ⟨host, headers, named, read, eq, set⟩ := buildSignedPostRequest_ok parsed sent
  have dateFound : getHeader req.arrives.headers "date"
      = some (trimMatches isHttpWhitespace date) := by
    rw [getHeader_arrives (by decide), eq, lookup_setHeaders set]
    simp [toAsciiLowercase]
  have digestFound : getHeader req.arrives.headers "digest"
      = some (trimMatches isHttpWhitespace digest) := by
    rw [getHeader_arrives (by decide), eq, lookup_setHeaders set]
    simp [toAsciiLowercase]
  have contentTypeFound : getHeader req.arrives.headers "content-type"
      = some activitypubContentType := by
    have bare : trimMatches isHttpWhitespace activitypubContentType = activitypubContentType := by
      decide
    rw [getHeader_arrives (by decide), eq, lookup_setHeaders set]
    simp [toAsciiLowercase, bare]
  have signatureFound : getHeader req.arrives.headers "Signature"
      = some (signatureHeader signer.keyId "(request-target) host date digest content-type"
          (signHttpSignature signer req.signed)) := by
    rw [getHeader_arrives (by decide), eq, lookup_setHeaders set, ← eq]
    simp [toAsciiLowercase, trimmed_signatureHeader]
  have built : buildSignatureSigningString parser req.arrives
      ⟨signer.keyId, signedPostHeaders, signer.signature req.signed⟩
        = .ok ("(request-target): " ++ (toAsciiLowercase "POST" ++ " " ++ arrivedPathAndQuery url)
          ++ "\nhost: " ++ hostHeader url ++ "\ndate: " ++ trimMatches isHttpWhitespace date
          ++ "\ndigest: " ++ trimMatches isHttpWhitespace digest ++ "\ncontent-type: "
          ++ activitypubContentType) := by
    rw [signingString_arrives (by rw [eq]; exact read),
      signingLines_post (getHeader_arrives_host req) dateFound digestFound contentTypeFound,
      eq]
  have target : "(request-target): " ++ (toAsciiLowercase "POST" ++ " " ++ arrivedPathAndQuery url)
      = "(request-target): post " ++ arrivedPathAndQuery url := by
    rw [← String.toList_inj]
    simp [toAsciiLowercase]
  rw [readsBack_iff (by decide) (by decide) signatureFound built, survives_iff, target, eq]
  refine and_congr_right fun _ => ?_
  have values : (∀ value ∈ [date, digest], trimMatches isHttpWhitespace value = value)
      ↔ trimMatches isHttpWhitespace date = date
        ∧ trimMatches isHttpWhitespace digest = digest := by
    simp
  rw [values, ← trimmed_pair_iff _ date digest "\ndigest: "
    ("\ncontent-type: " ++ activitypubContentType), ← hostHeader_line_iff named
      ("(request-target): post " ++ arrivedPathAndQuery url ++ "\nhost: ")]
  simp only [String.append_assoc]

/-- **What the receiver reads of a request is what the sender signed exactly if the key id
has no comma and no quotes at its ends, the URL names no port, and the signed values have no
whitespace at their ends.** -/
theorem signature_reads_back_iff {emission : Emission} {url : Url} {request : SignedRequest}
    (parsed : Parsed parser url)
    (sent : emission.request rules parser signer url = .ok request) :
    ReadsBack parser signer emission.signedNames request
      ↔ SurvivesTransport signer url emission.signedValues := by
  cases emission with
  | get domain date => exact readsBack_get_iff parsed sent
  | post date digest => exact readsBack_post_iff parsed sent

/-! ## Two inboxes -/

/-- A runtime that takes every header value. -/
def lenientRules : HeaderRules := ⟨fun _ => true⟩

def parserAt (url : Url) : UrlParser where
  parse text := if text = url.text then .ok url else .error "relative URL without a base"
  join _ _ := .error "relative URL without a base"

def inboxAt (text : String) (port : Option Nat) : Url where
  text := text
  scheme := "https"
  username := ""
  password := none
  host := some (.domain "remote.example")
  hostStr := some "remote.example"
  port := port
  path := "/inbox"
  query := none

def aliceKey : Signer where
  keyId := "https://local.example/users/alice#main-key"
  signature text := (text.toList.take 3).map fun c => c.toUInt8

def emptyDelivery : Emission :=
  .post "Sun, 06 Nov 1994 08:49:37 GMT" "SHA-256=47DEQpj8HBSa+/TImW+5JCeuQeRkm5NMpJWZG3hSuFU="

/-- An inbox at the default port. -/
def plainInbox : Url := inboxAt "https://remote.example/inbox" none

def portInbox : Url := inboxAt "https://remote.example:8443/inbox" (some 8443)

theorem parsed_plainInbox : Parsed (parserAt plainInbox) plainInbox :=
  ⟨by decide, by decide⟩

/-- A delivery to an inbox at the default port is read back. -/
theorem signature_reads_back_delivery :
    ∃ request, emptyDelivery.request lenientRules (parserAt plainInbox) aliceKey plainInbox
        = .ok request
      ∧ ReadsBack (parserAt plainInbox) aliceKey emptyDelivery.signedNames request :=
  ⟨_, rfl, (@signature_reads_back_iff lenientRules _ _ emptyDelivery _ _
    parsed_plainInbox rfl).mpr ⟨by decide, by decide, by decide, by decide⟩⟩

/-- A delivery to an inbox at another port is not: the sender signs the host without the
port. -/
theorem port_is_not_signed :
    ∃ request, emptyDelivery.request lenientRules (parserAt portInbox) aliceKey portInbox
        = .ok request
      ∧ ¬ ReadsBack (parserAt portInbox) aliceKey emptyDelivery.signedNames request := by
  refine ⟨_, rfl, ?_⟩
  rintro ⟨header, -, -, built⟩
  revert built
  decide +kernel

end Cfwdon.Http
