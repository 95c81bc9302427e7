import Cfwdon.Library.UrlHosts

/-!
# Authorities of URLs

What the URL parser of the standard reads from an absolute URL of http or https as its
host and its port.  The parser drops tabs and newlines wherever they stand, takes a
backslash for a slash, skips all slashes after the scheme, and takes everything up to the
last `@` of the authority for user information.
-/

namespace Cfwdon.Library

def isControlOrSpace (c : Char) : Bool :=
  decide (c.toNat ≤ 0x20)

def isTabOrNewline (c : Char) : Bool :=
  c == '\t' || c == '\n' || c == '\r'

/-- What the parser goes through: the text without control characters and spaces at its
ends, and without tabs and newlines. -/
def urlInput (text : List Char) : List Char :=
  ((text.dropWhile isControlOrSpace).rdropWhile isControlOrSpace).filter fun c =>
    !isTabOrNewline c

/-- The default port of the scheme, and what follows the scheme. -/
def httpInput (input : List Char) : Option (Nat × List Char) :=
  match input.dropWhile (· != ':') with
  | [] => none
  | _ :: rest =>
    let scheme := (input.takeWhile (· != ':')).map Char.toLower
    if scheme = "http".toList then some (80, rest)
    else if scheme = "https".toList then some (443, rest)
    else none

def isSlash (c : Char) : Bool :=
  c == '/' || c == '\\'

def endsAuthority (c : Char) : Bool :=
  "/\\?#".toList.contains c

/-- The authority state: what is between the slashes and the end of the authority. -/
def authorityOf (rest : List Char) : List Char :=
  (rest.dropWhile isSlash).takeWhile fun c => !endsAuthority c

/-- The host and the port, after the user information. -/
def afterUserInfo (authority : List Char) : List Char :=
  authority.rtakeWhile (· != '@')

/-- The host state: a host ends at the first colon outside brackets, and the rest is the
port. -/
def splitPort : Bool → List Char → List Char × Option (List Char)
  | _, [] => ([], none)
  | inside, c :: rest =>
    if c = ':' ∧ inside = false then ([], some rest)
    else
      let (host, port) := splitPort (c == '[' || (inside && c != ']')) rest
      (c :: host, port)

/-- The port state: a port is none if nothing is written or it is the default one. -/
def readPort (defaultPort : Nat) : Option (List Char) → Option (Option Nat)
  | none => some none
  | some digits =>
    if digits.all Char.isDigit then
      if digits = [] ∨ numberOf 10 digits = defaultPort then some none
      else if numberOf 10 digits < 2 ^ 16 then some (some (numberOf 10 digits))
      else none
    else none

variable (mapping : DomainMapping)

def readHostAndPort (defaultPort : Nat) (text : List Char) :
    Option (List Char × Option Nat) :=
  let (host, port) := splitPort false text
  if host = [] then none
  else
    match hostText mapping host, readPort defaultPort port with
    | some host, some port => some (host, port)
    | _, _ => none

/-- The host and the port of a URL of http or https. -/
def readHttpAuthority (text : List Char) : Option (List Char × Option Nat) :=
  match httpInput (urlInput text) with
  | none => none
  | some (defaultPort, rest) =>
    readHostAndPort mapping defaultPort (afterUserInfo (authorityOf rest))

/-! ## Where the port starts -/

section

variable {inside : Bool} {front rest host text : List Char} {port : Option (List Char)}

theorem splitPort_join (split : splitPort inside text = (host, port)) :
    text = host ++ (port.elim [] fun digits => ':' :: digits) := by
  induction text generalizing inside host with
  | nil =>
    rw [splitPort, Prod.mk.injEq] at split
    rw [← split.1, ← split.2]
    rfl
  | cons c rest ih =>
    rw [splitPort] at split
    split_ifs at split with colon
    · rw [Prod.mk.injEq] at split
      rw [← split.1, ← split.2, colon.1]
      rfl
    · rw [Prod.mk.injEq] at split
      rw [← split.1, List.cons_append]
      exact congrArg (c :: ·) (ih (Prod.ext rfl split.2))

theorem splitPort_open (plain : ∀ c ∈ front, c ≠ ':' ∧ c ≠ '[') :
    splitPort false (front ++ rest)
      = (front ++ (splitPort false rest).1, (splitPort false rest).2) := by
  induction front with
  | nil => rfl
  | cons c others ih =>
    obtain ⟨colon, bracket⟩ := plain c (List.mem_cons_self ..)
    have later := ih fun d mem => plain d (List.mem_cons_of_mem _ mem)
    rw [List.cons_append, splitPort, if_neg fun both => colon both.1,
      beq_false_of_ne bracket, Bool.false_or, Bool.false_and, later]
    rfl

theorem splitPort_inside (closed : ∀ c ∈ front, c ≠ ']') :
    splitPort true (front ++ ']' :: rest)
      = (front ++ ']' :: (splitPort false rest).1, (splitPort false rest).2) := by
  induction front with
  | nil => rw [List.nil_append, splitPort, if_neg (by simp)]; rfl
  | cons c others ih =>
    have bracket := closed c (List.mem_cons_self ..)
    have later := ih fun d mem => closed d (List.mem_cons_of_mem _ mem)
    rw [List.cons_append, splitPort, if_neg fun both => by cases both.2]
    have stays : (c == '[' || (true && c != ']')) = true := by simp [bracket]
    rw [stays, later]
    rfl

theorem splitPort_bracketed (closed : ∀ c ∈ front, c ≠ ']') :
    splitPort false ('[' :: (front ++ ']' :: rest))
      = ('[' :: (front ++ ']' :: (splitPort false rest).1), (splitPort false rest).2) := by
  rw [splitPort, if_neg (by simp)]
  have opens : ('[' == '[' || (false && '[' != ']')) = true := rfl
  rw [opens, splitPort_inside closed]

theorem splitPort_host (isHost : IsHostText host) (named : text.map Char.toLower = host) :
    splitPort false (text ++ rest)
      = (text ++ (splitPort false rest).1, (splitPort false rest).2) := by
  cases isHost with
  | @bracketed wrote chars =>
    obtain ⟨c, others, rfl, opens, later⟩ := List.map_eq_cons_iff.mp named
    obtain ⟨inner, back, rfl, inside, closes⟩ := List.map_eq_append_iff.mp later
    obtain ⟨d, none, rfl, closed, nothing⟩ := List.map_eq_cons_iff.mp closes
    rw [List.map_eq_nil_iff.mp nothing, eq_of_toLower_eq opens rfl, eq_of_toLower_eq closed rfl]
    have noClosing : ∀ c ∈ inner, c ≠ ']' := by
      rintro c mem rfl
      have address := chars ']' (by rw [← inside]; exact List.mem_map_of_mem mem)
      cases address
    have split := @splitPort_bracketed inner rest noClosing
    rw [List.cons_append, List.append_assoc]
    exact split.trans (by simp)
  | name ne chars =>
    apply splitPort_open
    intro c mem
    have fine := chars c.toLower (by rw [← named]; exact List.mem_map_of_mem mem)
    rw [isNameChar_toLower] at fine
    constructor <;> rintro rfl <;> cases fine

theorem splitPort_lowerHost (isHost : IsHostText host) (named : lowerHost text = host) :
    splitPort false (text ++ rest)
      = (text ++ (splitPort false rest).1, (splitPort false rest).2) := by
  obtain ⟨dots, whole, final⟩ := exists_dots text
  have plain : ∀ c ∈ dots, c ≠ ':' ∧ c ≠ '[' := by
    intro c mem
    rw [final c mem]
    decide
  rw [whole, List.append_assoc, splitPort_host isHost named, splitPort_open plain,
    List.append_assoc]

end

/-! ## Authorities without backslashes -/

section

variable {drop : Char → Bool} {front back : List Char}

theorem rdropWhile_append_of_last (ne : front ≠ [])
    (last : drop (front.getLast ne) = false) :
    (front ++ back).rdropWhile drop = front ++ back.rdropWhile drop := by
  induction back using List.reverseRecOn with
  | nil =>
    rw [List.append_nil, List.rdropWhile_nil, List.append_nil, List.rdropWhile_eq_self_iff]
    intro _
    simp [last]
  | append_singleton others c ih =>
    rw [← List.append_assoc, List.rdropWhile_concat, List.rdropWhile_concat]
    split_ifs with dropped
    · exact ih
    · rw [List.append_assoc]

theorem rtakeWhile_append_of_forall {keep : Char → Bool} (kept : ∀ c ∈ back, keep c = true) :
    (front ++ back).rtakeWhile keep = front.rtakeWhile keep ++ back := by
  induction back using List.reverseRecOn with
  | nil => simp
  | append_singleton others c ih =>
    rw [← List.append_assoc, List.rtakeWhile_concat_pos _ _ _ (kept c (by simp)),
      ih fun d mem => kept d (List.mem_append_left _ mem),
      List.append_assoc]

theorem rtakeWhile_separator {sep : Char} (absent : sep ∉ back) :
    (front ++ sep :: back).rtakeWhile (· != sep) = back := by
  have kept : ∀ c ∈ back, (c != sep) = true := by
    intro c mem
    rw [bne_iff_ne]
    rintro rfl
    exact absent mem
  have split := @rtakeWhile_append_of_forall (front ++ [sep]) _ _ kept
  rw [List.rtakeWhile_concat_neg _ _ _ (by simp), List.append_assoc] at split
  exact split

theorem append_separator_inj {sep : Char} {other later : List Char}
    (absent : sep ∉ back) (gone : sep ∉ later)
    (eq : front ++ sep :: back = other ++ sep :: later) :
    front = other ∧ back = later := by
  have ends : back = later := by
    rw [← @rtakeWhile_separator front _ _ absent, eq, rtakeWhile_separator gone]
  rw [ends] at eq
  exact ⟨List.append_cancel_right eq, ends⟩

end

/-- The starts of absolute URLs of http and https, with the default ports. -/
def httpStarts : List (List Char × Nat) :=
  [("https://".toList, 443), ("http://".toList, 80)]

theorem httpInput_of_start {start : List Char} {defaultPort : Nat} (rest : List Char)
    (known : (start, defaultPort) ∈ httpStarts) :
    httpInput (start ++ rest) = some (defaultPort, '/' :: '/' :: rest) := by
  simp only [httpStarts, List.mem_cons, Prod.mk.injEq, List.not_mem_nil, or_false] at known
  rcases known with ⟨rfl, rfl⟩ | ⟨rfl, rfl⟩ <;> rfl

section

variable {start stretch tail : List Char} {defaultPort : Nat}

/-- The input of the parser, if the authority has a character that the parser keeps at its
end. -/
theorem urlInput_of_start (known : (start, defaultPort) ∈ httpStarts) (ne : stretch ≠ [])
    (last : isControlOrSpace (stretch.getLast ne) = false) :
    urlInput (start ++ (stretch ++ tail))
      = start ++ ((stretch.filter fun c => !isTabOrNewline c)
        ++ (tail.rdropWhile isControlOrSpace).filter fun c => !isTabOrNewline c) := by
  have opened : (start ++ (stretch ++ tail)).dropWhile isControlOrSpace
      = start ++ (stretch ++ tail) ∧ (start.filter fun c => !isTabOrNewline c) = start := by
    simp only [httpStarts, List.mem_cons, Prod.mk.injEq, List.not_mem_nil, or_false] at known
    rcases known with ⟨rfl, rfl⟩ | ⟨rfl, rfl⟩ <;> exact ⟨rfl, by decide⟩
  have ends : (start ++ (stretch ++ tail)).rdropWhile isControlOrSpace
      = start ++ (stretch ++ tail.rdropWhile isControlOrSpace) := by
    rw [← List.append_assoc, rdropWhile_append_of_last (by simp [ne])
      (by rwa [List.getLast_append_of_ne_nil _ ne]), List.append_assoc]
  rw [urlInput, opened.1, ends, List.filter_append, List.filter_append, opened.2]

theorem tail_of_urlInput
    (ends : ∀ c, tail.head? = some c → endsAuthority c = true) :
    ∀ c, ((tail.rdropWhile isControlOrSpace).filter fun c => !isTabOrNewline c).head? = some c →
      endsAuthority c = true := by
  intro c starts
  cases tail with
  | nil => cases starts
  | cons first rest =>
    have enders : ∀ d, endsAuthority d = true →
        isControlOrSpace d = false ∧ isTabOrNewline d = false := by
      intro d ender
      simp only [endsAuthority, List.contains_iff_mem] at ender
      have all : ("/\\?#".toList.all fun d => !isControlOrSpace d && !isTabOrNewline d)
          = true := by decide
      simpa using List.all_eq_true.mp all d ender
    have ender := ends first rfl
    have kept : (first :: rest).rdropWhile isControlOrSpace
        = first :: rest.rdropWhile isControlOrSpace :=
      @rdropWhile_append_of_last isControlOrSpace [first] rest (by simp) (enders first ender).1
    rw [kept, List.filter_cons_of_pos (by simp [(enders first ender).2])] at starts
    rw [← Option.some.inj starts]
    exact ender

theorem afterUserInfo_filter {keep : Char → Bool} (sep : keep '@' = true)
    (kept : ∀ c ∈ afterUserInfo stretch, keep c = true) :
    afterUserInfo (stretch.filter keep) = afterUserInfo stretch := by
  have parts : stretch.filter keep
      = (stretch.rdropWhile (· != '@')).filter keep ++ afterUserInfo stretch := by
    conv_lhs => rw [← @List.rdropWhile_append_rtakeWhile _ (· != '@') stretch]
    rw [List.filter_append]
    exact congrArg _ (List.filter_eq_self.mpr kept)
  have userInfo : ((stretch.rdropWhile (· != '@')).filter keep).rtakeWhile (· != '@') = [] := by
    by_cases none : stretch.rdropWhile (· != '@') = []
    · rw [none]
      rfl
    · have last := List.rdropWhile_last_not (· != '@') stretch none
      have separates : (stretch.rdropWhile (· != '@')).getLast none = '@' := by simpa using last
      rw [← List.dropLast_append_getLast none, separates, List.filter_append,
        List.filter_cons_of_pos sep, List.filter_nil]
      exact List.rtakeWhile_concat_neg _ _ _ (by simp)
  have whole : (afterUserInfo (stretch.filter keep))
      = ((stretch.rdropWhile (· != '@')).filter keep).rtakeWhile (· != '@')
        ++ afterUserInfo stretch := by
    rw [afterUserInfo, parts]
    exact rtakeWhile_append_of_forall fun c mem =>
      @List.mem_rtakeWhile_imp _ (· != '@') stretch c mem
  rw [whole, userInfo, List.nil_append]

theorem authorityOf_of_unslashed (filled : stretch ≠ [])
    (within : ∀ c ∈ stretch, endsAuthority c = false)
    (ends : ∀ c, tail.head? = some c → endsAuthority c = true) :
    authorityOf ('/' :: '/' :: (stretch ++ tail)) = stretch := by
  have slashes : ∀ c, isSlash c = true → endsAuthority c = true := by
    intro c slash
    simp only [isSlash, Bool.or_eq_true, beq_iff_eq] at slash
    rcases slash with rfl | rfl <;> rfl
  have skipped : (('/' :: '/' :: (stretch ++ tail)).dropWhile isSlash) = stretch ++ tail := by
    cases stretch with
    | nil => exact absurd rfl filled
    | cons c rest =>
      have stays : ¬ isSlash c = true := by
        intro slash
        have inside := within c (List.mem_cons_self ..)
        rw [slashes c slash] at inside
        cases inside
      exact List.dropWhile_cons_of_neg stays
  have kept : ∀ c ∈ stretch, (!endsAuthority c) = true := by
    intro c mem
    rw [within c mem]
    rfl
  rw [authorityOf, skipped, List.takeWhile_append_of_pos kept]
  cases tail with
  | nil => exact List.append_nil _
  | cons c rest =>
    rw [List.takeWhile_cons_of_neg (by simp [ends c rfl]), List.append_nil]

/-- The authority of a text, if no backslash stands in it and no control character in its
host and port. -/
theorem readAuthority_of_unslashed (known : (start, defaultPort) ∈ httpStarts)
    (within : ∀ c ∈ stretch, endsAuthority c = false)
    (ends : ∀ c, tail.head? = some c → endsAuthority c = true)
    (ne : afterUserInfo stretch ≠ [])
    (printed : ∀ c ∈ afterUserInfo stretch, isControlOrSpace c = false) :
    readHttpAuthority mapping (start ++ (stretch ++ tail))
      = readHostAndPort mapping defaultPort (afterUserInfo stretch) := by
  have suffix : afterUserInfo stretch <:+ stretch := List.rtakeWhile_suffix _ _
  have filled : stretch ≠ [] := by
    rintro rfl
    exact ne rfl
  have last : isControlOrSpace (stretch.getLast filled) = false := by
    rw [← suffix.getLast ne]
    exact printed _ (List.getLast_mem ne)
  have visible : ∀ c ∈ afterUserInfo stretch, (!isTabOrNewline c) = true := by
    intro c mem
    by_contra hidden
    have fine := printed c mem
    simp only [isTabOrNewline, Bool.not_eq_true, Bool.not_eq_false', Bool.or_eq_true, beq_iff_eq]
      at hidden
    rcases hidden with (rfl | rfl) | rfl <;> cases fine
  have seen : (stretch.filter fun c => !isTabOrNewline c) ≠ [] := by
    obtain ⟨c, mem⟩ := List.exists_mem_of_ne_nil _ ne
    exact List.ne_nil_of_mem (List.mem_filter.mpr ⟨suffix.subset mem, visible c mem⟩)
  have unslashed : ∀ c ∈ stretch.filter fun c => !isTabOrNewline c, endsAuthority c = false :=
    fun c mem => within c (List.mem_of_mem_filter mem)
  rw [readHttpAuthority, urlInput_of_start known filled last, httpInput_of_start _ known]
  dsimp only
  rw [authorityOf_of_unslashed seen unslashed (tail_of_urlInput ends),
    afterUserInfo_filter rfl visible]

end

end Cfwdon.Library
