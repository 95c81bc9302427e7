import Cfwdon.Federation.Urls
import Cfwdon.Library.UrlAuthorities

/-!
# Authorities and the hosts that are fetched

The authority check splits the text of a URL by hand; the fetch goes to the host that the
URL parser reads from the same text.  The splitter ends an authority at a slash, `?` or
`#` only, keeps the characters that the parser drops, and compares hosts as they are
written.
-/

namespace Cfwdon.Federation

open Library

/-- The stretch that the splitter takes for the authority. -/
def stretchOf (rest : String) : List Char :=
  rest.toList.takeWhile fun c => !"/?#".toList.contains c

/-- What stands after the last `@` of a text, or all of it. -/
theorem toList_afterUserInfo (authority : String) :
    (((rsplitOnce authority '@').map Prod.snd).getD authority).toList
      = afterUserInfo authority.toList := by
  rcases rsplitOnce_cases authority '@' with ⟨none, absent⟩ | ⟨pre, post, some, parts, last⟩
  · rw [none]
    refine (List.rtakeWhile_eq_self_iff.mpr fun c mem => ?_).symm
    simp only [bne_iff_ne, ne_eq]
    rintro rfl
    exact absent mem
  · rw [some, parts]
    exact (rtakeWhile_separator last).symm

theorem toList_trimEndMatches (text : String) (drop : Char) :
    (trimEndMatches text drop).toList = text.toList.rdropWhile (· == drop) :=
  String.toList_ofList

theorem colon_notMem_of_digits {digits : List Char} (each : ∀ c ∈ digits, c.isDigit = true) :
    ':' ∉ digits := fun mem => by
  have colon := each ':' mem
  cases colon

theorem hostAndPort_of_port {hostPort : String} {host digits : List Char}
    (eq : hostPort.toList = host ++ ':' :: digits) (ne : host ≠ [])
    (each : ∀ c ∈ digits, c.isDigit = true) :
    hostAndPort hostPort = (String.ofList host, some (String.ofList digits)) := by
  unfold hostAndPort
  rcases rsplitOnce_cases hostPort ':' with ⟨_, absent⟩ | ⟨pre, post, some, parts, last⟩
  · exact absurd (by rw [eq]; simp) absent
  · rw [eq] at parts
    obtain ⟨rfl, rfl⟩ := append_separator_inj (colon_notMem_of_digits each) last parts
    have named : pre ≠ "" := fun empty => ne (by rw [empty]; rfl)
    have ok : (decide (pre ≠ "") && post.toList.all Char.isDigit) = true := by
      simpa [named] using each
    rw [some]
    dsimp only
    rw [if_pos ok, String.ofList_toList, String.ofList_toList]

theorem hostAndPort_cases (hostPort : String) :
    (∃ host digits, hostPort.toList = host ++ ':' :: digits ∧ host ≠ []
      ∧ (∀ c ∈ digits, c.isDigit = true)
      ∧ hostAndPort hostPort = (String.ofList host, some (String.ofList digits)))
    ∨ (hostAndPort hostPort = (hostPort, none)
      ∧ ∀ host digits, host ≠ [] → (∀ c ∈ digits, c.isDigit = true) →
        hostPort.toList ≠ host ++ ':' :: digits) := by
  by_cases ported : ∃ host digits, hostPort.toList = host ++ ':' :: digits ∧ host ≠ []
      ∧ ∀ c ∈ digits, c.isDigit = true
  · obtain ⟨host, digits, eq, ne, each⟩ := ported
    exact Or.inl ⟨host, digits, eq, ne, each, hostAndPort_of_port eq ne each⟩
  · refine Or.inr ⟨?_, fun host digits ne each eq =>
      ported ⟨host, digits, eq, ne, each⟩⟩
    unfold hostAndPort
    rcases rsplitOnce_cases hostPort ':' with ⟨none, _⟩ | ⟨host, port, some, parts, _⟩
    · rw [none]
    · rw [some]
      dsimp only
      split_ifs with split
      · simp only [Bool.and_eq_true, decide_eq_true_eq, List.all_eq_true] at split
        refine absurd ⟨_, _, parts, ?_, split.2⟩ ported
        exact fun empty => split.1 (String.toList_eq_nil_iff.mp empty)
      · rfl

/-- What the splitter makes of a text of a host and a port. -/
def authorityOfHostPort (defaultPort : String) (hostPort : List Char) : Option String :=
  let (host, port) := hostAndPort (trimEndMatches (String.ofList hostPort) '.')
  let host := toAsciiLowercase (trimEndMatches host '.')
  if host = "" then none
  else
    match port with
    | none => some host
    | some port => if port = defaultPort then some host else some (host ++ ":" ++ port)

theorem authority_nil (defaultPort : String) : authorityOfHostPort defaultPort [] = none := by
  have nothing : hostAndPort (trimEndMatches (String.ofList []) '.') = ("", none) := by decide
  rw [authorityOfHostPort, nothing]
  exact if_pos (by decide)

theorem httpAuthority_of_scheme {url defaultPort rest : String}
    (scheme : httpScheme url = some (defaultPort, rest)) :
    remoteHttpAuthority url = authorityOfHostPort defaultPort (afterUserInfo (stretchOf rest)) := by
  have hostPort : ((rsplitOnce (String.ofList (stretchOf rest)) '@').map Prod.snd).getD
      (String.ofList (stretchOf rest)) = String.ofList (afterUserInfo (stretchOf rest)) := by
    rw [← String.toList_inj, toList_afterUserInfo, String.toList_ofList, String.toList_ofList]
  rw [stretchOf] at hostPort
  rw [remoteHttpAuthority, scheme]
  dsimp only
  rw [hostPort, ← stretchOf]
  by_cases empty : afterUserInfo (stretchOf rest) = []
  · rw [empty, authority_nil]
    rw [if_pos]
    simp
  · have filled : stretchOf rest ≠ [] := by
      intro nothing
      rw [nothing] at empty
      exact empty rfl
    refine (if_neg (by simp [filled, empty])).trans ?_
    unfold authorityOfHostPort
    cases hostAndPort (trimEndMatches (String.ofList (afterUserInfo (stretchOf rest))) '.') with
    | mk host port => rfl

/-! ## What a text spells -/

theorem isDigit_toDigits (num : Nat) : ∀ c ∈ Nat.toDigits 10 num, c.isDigit = true :=
  fun _ mem => Nat.isDigit_of_mem_toDigits (by decide) (by decide) mem

def portText (port : Option Nat) : List Char :=
  port.elim [] fun number => ':' :: Nat.toDigits 10 number

/-- A text spells a host and a port: the host in any case and with final dots, or with its
port in decimal, or with all of them before the default port. -/
inductive Spells (defaultPort : List Char) (host : List Char) (port : Option Nat) :
    List Char → Prop where
  | bare {text : List Char} (unported : port = none) (named : lowerHost text = host) :
      Spells defaultPort host port text
  | withPort {text dots : List Char} {number : Nat} (ported : port = some number)
      (other : Nat.toDigits 10 number ≠ defaultPort) (named : lowerHost text = host)
      (final : ∀ c ∈ dots, c = '.') :
      Spells defaultPort host port (text ++ ':' :: Nat.toDigits 10 number ++ dots)
  | withDefaultPort {text dots : List Char} (named : lowerHost text = host ++ portText port)
      (final : ∀ c ∈ dots, c = '.') :
      Spells defaultPort host port (text ++ ':' :: defaultPort ++ dots)

section

variable {host digits hostPort text : List Char} {port : Option Nat} {defaultPort : String}

theorem authority_of_none
    (split : hostAndPort (trimEndMatches (String.ofList hostPort) '.')
      = (trimEndMatches (String.ofList hostPort) '.', none)) :
    authorityOfHostPort defaultPort hostPort
      = if lowerHost hostPort = [] then none else some (String.ofList (lowerHost hostPort)) := by
  have named : toAsciiLowercase (trimEndMatches (trimEndMatches (String.ofList hostPort) '.') '.')
      = String.ofList (lowerHost hostPort) := by
    rw [← String.toList_inj, toList_lowercase, toList_trimEndMatches,
      toList_trimEndMatches, String.toList_ofList, String.toList_ofList,
      List.rdropWhile_idempotent, lowerHost]
  rw [authorityOfHostPort, split]
  dsimp only
  rw [named]
  exact if_congr String.ofList_eq_empty_iff rfl rfl

theorem authority_of_some
    (split : hostAndPort (trimEndMatches (String.ofList hostPort) '.')
      = (String.ofList text, some (String.ofList digits))) :
    authorityOfHostPort defaultPort hostPort
      = if lowerHost text = [] then none
        else if digits = defaultPort.toList then some (String.ofList (lowerHost text))
        else some (String.ofList (lowerHost text ++ ':' :: digits)) := by
  have named : toAsciiLowercase (trimEndMatches (String.ofList text) '.')
      = String.ofList (lowerHost text) := by
    rw [← String.toList_inj, toList_lowercase, toList_trimEndMatches,
      String.toList_ofList, String.toList_ofList, lowerHost]
  have default : String.ofList digits = defaultPort ↔ digits = defaultPort.toList := by
    rw [← String.toList_inj, String.toList_ofList]
  have whole : String.ofList (lowerHost text) ++ ":" ++ String.ofList digits
      = String.ofList (lowerHost text ++ ':' :: digits) := by
    rw [← String.toList_inj]
    simp
  rw [authorityOfHostPort, split]
  dsimp only
  rw [named, whole]
  exact if_congr String.ofList_eq_empty_iff rfl (if_congr default rfl rfl)

theorem toList_trimEndMatches_of_port {dots : List Char}
    (each : ∀ c ∈ digits, c.isDigit = true) (final : ∀ c ∈ dots, c = '.') :
    (trimEndMatches (String.ofList (text ++ ':' :: digits ++ dots)) '.').toList
      = text ++ ':' :: digits := by
  rw [toList_trimEndMatches, String.toList_ofList, rdropWhile_append_dots final]
  apply rdropWhile_eq_self
  intro dotted
  rw [List.getLast?_append_cons] at dotted
  rcases List.mem_cons.mp (List.mem_of_getLast? dotted) with colon | digit
  · cases colon
  · cases each '.' digit

/-- The splitter takes a text for a host and a port exactly if the text spells them. -/
theorem authority_eq_iff (isHost : IsHostText host)
    (decimal : ∀ c ∈ defaultPort.toList, c.isDigit = true) :
    authorityOfHostPort defaultPort hostPort = some (String.ofList (host ++ portText port))
      ↔ Spells defaultPort.toList host port hostPort := by
  constructor
  · intro value
    obtain ⟨dots, whole, final⟩ := exists_dots hostPort
    have trimmed := toList_trimEndMatches (String.ofList hostPort) '.'
    rw [String.toList_ofList] at trimmed
    rcases hostAndPort_cases (trimEndMatches (String.ofList hostPort) '.') with
      ⟨text, digits, eq, _, each, split⟩ | ⟨split, unported⟩
    · rw [authority_of_some split] at value
      rw [whole, ← trimmed, eq]
      split_ifs at value with _ isDefault
      · rw [isDefault]
        exact .withDefaultPort (String.ofList_inj.mp (Option.some.inj value)) final
      · rw [Option.some_inj, String.ofList_inj] at value
        cases port with
        | none =>
          rw [portText, Option.elim_none, List.append_nil] at value
          rw [← value] at isHost
          exact (isHost.unported each).elim
        | some num =>
          obtain ⟨named, rfl⟩ := append_separator_inj (colon_notMem_of_digits each)
            (colon_notMem_of_digits (isDigit_toDigits num)) value
          exact .withPort rfl isDefault named final
    · rw [authority_of_none split] at value
      split_ifs at value
      rw [Option.some_inj, String.ofList_inj] at value
      cases port with
      | none => exact .bare rfl (by simpa [portText] using value)
      | some num =>
        obtain ⟨front, eq, lower⟩ := exists_port_of_toLower value (isDigit_toDigits num)
        refine absurd (trimmed.trans eq) (unported front _ ?_ (isDigit_toDigits num))
        rintro rfl
        exact isHost.ne_nil lower.symm
  · intro spelled
    cases spelled with
    | bare without named =>
      subst without
      rcases hostAndPort_cases (trimEndMatches (String.ofList hostPort) '.') with
        ⟨text, digits, eq, _, each, _⟩ | ⟨split, _⟩
      · rw [toList_trimEndMatches, String.toList_ofList] at eq
        rw [lowerHost, eq, List.map_append, List.map_cons] at named
        rw [← named] at isHost
        exact (isHost.unported (isDigit_map_toLower each)).elim
      · rw [authority_of_none split, named, if_neg isHost.ne_nil, portText,
          Option.elim_none, List.append_nil]
    | @withPort text dots num ported other named final =>
      subst ported
      have split := hostAndPort_of_port
        (toList_trimEndMatches_of_port (isDigit_toDigits num) final)
        (ne_nil_of_lowerHost (by rw [named]; exact isHost.ne_nil)) (isDigit_toDigits num)
      rw [authority_of_some split, named, if_neg isHost.ne_nil, if_neg other]
      rfl
    | @withDefaultPort text dots named final =>
      have filled : lowerHost text ≠ [] := by
        rw [named]
        exact List.append_ne_nil_of_left_ne_nil isHost.ne_nil _
      have split := hostAndPort_of_port (toList_trimEndMatches_of_port decimal final)
        (ne_nil_of_lowerHost filled) decimal
      rw [authority_of_some split, if_neg filled, if_pos rfl, named]

end

/-! ## Where the splitter and the parser agree -/

variable {host : List Char} {c : Char} {digits : Option (List Char)} {num : Nat}

section

variable {url defaultPort rest : String}

theorem httpScheme_cases (scheme : httpScheme url = some (defaultPort, rest)) :
    ∃ start num, (start, num) ∈ httpStarts
      ∧ defaultPort.toList = Nat.toDigits 10 num ∧ numberOf 10 defaultPort.toList = num
      ∧ (trim url).toList = start ++ rest.toList := by
  unfold httpScheme at scheme
  cases secure : stripPrefix (trim url) "https://" with
  | some tail =>
    rw [secure, Option.some_inj, Prod.mk.injEq] at scheme
    rw [scheme.2] at secure
    refine ⟨_, 443, List.mem_cons_self .., ?_, ?_, toList_of_stripPrefix secure⟩
    · rw [← scheme.1]; decide
    · rw [← scheme.1]; decide
  | none =>
    rw [secure] at scheme
    obtain ⟨tail, got, eq⟩ := Option.map_eq_some_iff.mp scheme
    rw [Prod.mk.injEq] at eq
    rw [eq.2] at got
    refine ⟨_, 80, List.mem_cons_of_mem _ (List.mem_cons_self ..), ?_, ?_, toList_of_stripPrefix got⟩
    · rw [← eq.1]; decide
    · rw [← eq.1]; decide

/-- The text of an authority is the splitter's exactly if the text that it takes for a
host and a port spells them. -/
theorem httpAuthority_eq_iff {port : Option Nat}
    (scheme : httpScheme url = some (defaultPort, rest)) (isHost : IsHostText host) :
    remoteHttpAuthority url = some (String.ofList (host ++ portText port))
      ↔ Spells defaultPort.toList host port (afterUserInfo (stretchOf rest)) := by
  obtain ⟨_, num, _, decimal, _⟩ := httpScheme_cases scheme
  rw [httpAuthority_of_scheme scheme]
  apply authority_eq_iff isHost
  rw [decimal]
  exact isDigit_toDigits num

variable (mapping : DomainMapping)

/-- A port that is left out or in decimal digits, as numbers are written. -/
def PlainPort (port : Option (List Char)) : Prop :=
  ∀ digits, port = some digits → digits = Nat.toDigits 10 (numberOf 10 digits)

/-- The URLs on which the splitter and the parser agree: no backslash stands before the
end of the authority and what stands after the last `@` is a plain host and a plain port;
or a backslash does, and what stands after the last `@` spells the host and the port that
the parser finds before it. -/
inductive ReadAlike (url : String) : Prop where
  | plain {defaultPort rest : String} {host : List Char} {port : Option (List Char)}
      (scheme : httpScheme url = some (defaultPort, rest)) (unslashed : '\\' ∉ stretchOf rest)
      (split : splitPort false (afterUserInfo (stretchOf rest)) = (host, port))
      (plainHost : PlainHost mapping host) (plainPort : PlainPort port) : ReadAlike url
  | shadowed {defaultPort rest : String} {host : List Char} {port : Option Nat}
      (scheme : httpScheme url = some (defaultPort, rest)) (slashed : '\\' ∈ stretchOf rest)
      (read : readHttpAuthority mapping (trim url).toList = some (host, port))
      (spelled : Spells defaultPort.toList host port (afterUserInfo (stretchOf rest))) :
      ReadAlike url

variable {mapping}

theorem readHostAndPort_cases {text host : List Char} {port : Option Nat}
    (read : readHostAndPort mapping num text = some (host, port)) :
    ∃ name digits, splitPort false text = (name, digits) ∧ name ≠ []
      ∧ hostText mapping name = some host ∧ readPort num digits = some port := by
  unfold readHostAndPort at read
  dsimp only at read
  split_ifs at read with empty
  split at read
  · rename_i wrote got
    cases read
    exact ⟨_, _, rfl, empty, wrote, got⟩
  · cases read

theorem readPort_cases {digits : List Char} {port : Option Nat}
    (got : readPort num (some digits) = some port) :
    (∀ c ∈ digits, c.isDigit = true)
      ∧ ((port = none ∧ (digits = [] ∨ numberOf 10 digits = num))
        ∨ (port = some (numberOf 10 digits) ∧ numberOf 10 digits ≠ num)) := by
  rw [readPort] at got
  split_ifs at got with each isDefault small
  · exact ⟨List.all_eq_true.mp each, Or.inl ⟨(Option.some.inj got).symm, isDefault⟩⟩
  · exact ⟨List.all_eq_true.mp each, Or.inr ⟨(Option.some.inj got).symm,
      fun eq => isDefault (Or.inr eq)⟩⟩

theorem dots_eq_nil {digits dots : List Char} (each : ∀ c ∈ digits ++ dots, c.isDigit = true)
    (final : ∀ c ∈ dots, c = '.') : dots = [] := by
  cases dots with
  | nil => rfl
  | cons c rest =>
    have digit := each c (by simp)
    rw [final c (List.mem_cons_self ..)] at digit
    cases digit

theorem spells_of_plain {number : Nat} (standard : numberOf 10 (Nat.toDigits 10 number) = number)
    {text name host : List Char} {port : Option Nat}
    (ne : name ≠ [])
    (split : splitPort false text = (name, digits))
    (wrote : hostText mapping name = some host) (got : readPort number digits = some port)
    (plainHost : PlainHost mapping name) (plainPort : PlainPort digits) :
    Spells (Nat.toDigits 10 number) host port text := by
  have named : lowerHost name = host := by
    rw [(hostText_eq_lower_iff ne).mpr plainHost] at wrote
    exact Option.some.inj wrote
  have joined := splitPort_join split
  cases digits with
  | none =>
    rw [Option.elim_none, List.append_nil] at joined
    rw [joined]
    exact .bare (Option.some.inj got).symm named
  | some digits =>
    have decimal := plainPort digits rfl
    rw [Option.elim_some] at joined
    rw [joined]
    rw [← List.append_nil (name ++ _)]
    obtain ⟨each, ⟨rfl, rfl | eq⟩ | ⟨rfl, other⟩⟩ := readPort_cases got
    · exact absurd decimal (by decide)
    · rw [eq] at decimal
      rw [decimal]
      exact .withDefaultPort (by rw [named]; exact (List.append_nil _).symm) (by simp)
    · have different : Nat.toDigits 10 (numberOf 10 digits) ≠ Nat.toDigits 10 number := by
        rw [← decimal]
        intro eq
        rw [eq] at other
        exact other standard
      have spelled := @Spells.withPort _ _ _ name [] _ rfl different named (by simp)
      rwa [← decimal] at spelled

theorem plain_of_spells (standard : numberOf 10 (Nat.toDigits 10 num) = num)
    {text name host : List Char} {port : Option Nat}
    (ne : name ≠ [])
    (split : splitPort false text = (name, digits))
    (wrote : hostText mapping name = some host) (got : readPort num digits = some port)
    (spelled : Spells (Nat.toDigits 10 num) host port text) :
    PlainHost mapping name ∧ PlainPort digits := by
  have isHost := hostText_isHostText wrote
  suffices eq : lowerHost name = host ∧ PlainPort digits by
    rw [← eq.1] at wrote
    exact ⟨(hostText_eq_lower_iff ne).mp wrote, eq.2⟩
  cases spelled with
  | bare unported named =>
    have whole := @splitPort_lowerHost [] _ _ isHost named
    rw [List.append_nil, split, splitPort, List.append_nil, Prod.mk.injEq] at whole
    rw [whole.1, whole.2]
    exact ⟨named, fun digits none => by cases none⟩
  | @withPort front dots other ported different named final =>
    rw [List.append_assoc, splitPort_lowerHost isHost named, List.cons_append, splitPort,
      if_pos ⟨rfl, rfl⟩, List.append_nil, Prod.mk.injEq] at split
    rw [← split.1, ← split.2]
    rw [← split.2] at got
    obtain ⟨each, ⟨unported, _⟩ | ⟨eq, _⟩⟩ := readPort_cases got
    · rw [ported] at unported
      cases unported
    · rw [dots_eq_nil each final, List.append_nil] at eq ⊢
      rw [ported, Option.some_inj] at eq
      refine ⟨named, fun digits chosen => ?_⟩
      rw [← Option.some.inj chosen, ← eq]
  | @withDefaultPort front dots named final =>
    cases port with
    | none =>
      rw [portText, Option.elim_none, List.append_nil] at named
      rw [List.append_assoc, splitPort_lowerHost isHost named, List.cons_append, splitPort,
        if_pos ⟨rfl, rfl⟩, List.append_nil, Prod.mk.injEq] at split
      rw [← split.1, ← split.2]
      rw [← split.2] at got
      refine ⟨named, fun digits chosen => ?_⟩
      rw [dots_eq_nil (readPort_cases got).1 final, List.append_nil] at chosen
      rw [← Option.some.inj chosen, standard]
    | some other =>
      -- Two ports: the parser refuses a port with a colon in it.
      obtain ⟨text, eq, lower⟩ := exists_port_of_toLower named (isDigit_toDigits other)
      obtain ⟨between, whole, _⟩ := exists_dots front
      rw [whole, eq, List.append_assoc, List.append_assoc, List.append_assoc,
        splitPort_host isHost lower, List.cons_append, splitPort, if_pos ⟨rfl, rfl⟩,
        Prod.mk.injEq] at split
      rw [← split.2] at got
      exact absurd ((readPort_cases got).1 ':' (by simp)) (by decide)

/-! ### Characters that both keep -/

theorem isControl_of_toLower (kept : isControlOrSpace c.toLower = false) :
    isControlOrSpace c = false := by
  rcases toLower_cases c with own | ⟨n, below, above, rfl⟩
  · rwa [own] at kept
  · have all : ∀ n < 91, 65 ≤ n → isControlOrSpace (Char.ofNat n) = false := by decide
    exact all n below above

theorem isControl_of_name (fine : isNameCharacter c = true) : isControlOrSpace c = false := by
  by_contra control
  simp only [isControlOrSpace, decide_eq_false_iff_not, not_not] at control
  simp [isNameCharacter, isForbiddenInDomain, control] at fine

theorem isControl_of_address (fine : isAddressCharacter c = true) : isControlOrSpace c = false := by
  have all : ("0123456789abcdef:".toList.all fun c => !isControlOrSpace c) = true := by decide
  simpa using List.all_eq_true.mp all c (by simpa [isAddressCharacter] using fine)

theorem isControl_of_digit (digit : c.isDigit = true) : isControlOrSpace c = false :=
  isControl_of_name (isNameChar_of_digit (Or.inl digit))

theorem isControl_of_host (isHost : IsHostText host) : ∀ c ∈ host, isControlOrSpace c = false := by
  cases isHost with
  | bracketed chars =>
    intro c mem
    rw [List.mem_cons, List.mem_append, List.mem_singleton] at mem
    rcases mem with rfl | inside | rfl
    · decide
    · exact isControl_of_address (chars c inside)
    · decide
  | name ne chars => exact fun c mem => isControl_of_name (chars c mem)

theorem isControl_of_lowerHost {text : List Char}
    (kept : ∀ c ∈ lowerHost text, isControlOrSpace c = false) :
    ∀ c ∈ text, isControlOrSpace c = false := by
  intro c mem
  rcases toLower_mem_lowerHost mem with rfl | inside
  · decide
  · exact isControl_of_toLower (kept _ inside)

theorem isControl_of_spells {standard host text : List Char} {port : Option Nat}
    (decimal : ∀ c ∈ standard, c.isDigit = true) (isHost : IsHostText host)
    (spelled : Spells standard host port text) : ∀ c ∈ text, isControlOrSpace c = false := by
  have ported : ∀ {front digits dots : List Char}, (∀ c ∈ lowerHost front,
      isControlOrSpace c = false) → (∀ c ∈ digits, c.isDigit = true) → (∀ c ∈ dots, c = '.') →
      ∀ c ∈ front ++ ':' :: digits ++ dots, isControlOrSpace c = false := by
    intro front digits dots kept each final c mem
    rw [List.mem_append, List.mem_append, List.mem_cons] at mem
    rcases mem with (inside | rfl | digit) | dot
    · exact isControl_of_lowerHost kept c inside
    · decide
    · exact isControl_of_digit (each c digit)
    · rw [final c dot]
      decide
  cases spelled with
  | bare unported named =>
    apply isControl_of_lowerHost
    rw [named]
    exact isControl_of_host isHost
  | withPort _ different named final =>
    refine ported ?_ (isDigit_toDigits _) final
    rw [named]
    exact isControl_of_host isHost
  | withDefaultPort named final =>
    refine ported ?_ decimal final
    rw [named]
    intro c mem
    rcases List.mem_append.mp mem with inside | later
    · exact isControl_of_host isHost c inside
    · cases port with
      | none => cases later
      | some num =>
        rcases List.mem_cons.mp later with rfl | digit
        · decide
        · exact isControl_of_digit (isDigit_toDigits num c digit)

theorem isControl_of_plainHost {name : List Char} (plainHost : PlainHost mapping name) :
    ∀ c ∈ name, isControlOrSpace c = false := by
  by_cases empty : name = []
  · rw [empty]
    simp
  · apply isControl_of_lowerHost
    exact isControl_of_host (hostText_isHostText ((hostText_eq_lower_iff empty).mpr plainHost))

theorem stretchOf_cases (unslashed : '\\' ∉ stretchOf rest) :
    ∃ tail, rest.toList = stretchOf rest ++ tail
      ∧ (∀ c ∈ stretchOf rest, endsAuthority c = false)
      ∧ ∀ c, tail.head? = some c → endsAuthority c = true := by
  refine ⟨rest.toList.dropWhile fun c => !"/?#".toList.contains c,
    (List.takeWhile_append_dropWhile).symm, ?_, ?_⟩
  · intro c mem
    have inside := List.mem_takeWhile_imp mem
    have other : c ≠ '\\' := by
      rintro rfl
      exact unslashed mem
    simp only [endsAuthority]
    simp at inside
    simp [inside, other]
  · intro c first
    have stops := List.head?_dropWhile_not (fun c => !"/?#".toList.contains c) rest.toList
    rw [first] at stops
    have ender : "/?#".toList.contains c = true := by simpa only [Bool.not_eq_false'] using stops
    have all : "/?#".toList.all endsAuthority = true := by decide
    exact List.all_eq_true.mp all c (List.contains_iff_mem.mp ender)

theorem readAuthority_of_stretch (scheme : httpScheme url = some (defaultPort, rest))
    (unslashed : '\\' ∉ stretchOf rest) (ne : afterUserInfo (stretchOf rest) ≠ [])
    (printed : ∀ c ∈ afterUserInfo (stretchOf rest), isControlOrSpace c = false) :
    ∃ num, defaultPort.toList = Nat.toDigits 10 num
      ∧ numberOf 10 (Nat.toDigits 10 num) = num
      ∧ readHttpAuthority mapping (trim url).toList
        = readHostAndPort mapping num (afterUserInfo (stretchOf rest)) := by
  obtain ⟨start, num, known, decimal, standard, whole⟩ := httpScheme_cases scheme
  obtain ⟨tail, parts, within, ends⟩ := stretchOf_cases unslashed
  refine ⟨num, decimal, by rw [← decimal, standard], ?_⟩
  rw [whole, parts]
  exact readAuthority_of_unslashed mapping known within ends ne printed

theorem isHostText_of_read {text host : List Char} {port : Option Nat}
    (read : readHttpAuthority mapping text = some (host, port)) : IsHostText host := by
  unfold readHttpAuthority at read
  split at read
  · cases read
  · obtain ⟨_, _, _, _, wrote, _⟩ := readHostAndPort_cases read
    exact hostText_isHostText wrote

theorem host_and_port_read_alike_iff {port : Option Nat} {authority : String}
    (split : remoteHttpAuthority url = some authority)
    (read : readHttpAuthority mapping (trim url).toList = some (host, port)) :
    remoteHttpAuthority url = some (String.ofList (host ++ portText port))
      ↔ ReadAlike mapping url := by
  have isHost := isHostText_of_read read
  cases scheme : httpScheme url with
  | none =>
    rw [remoteHttpAuthority, scheme] at split
    cases split
  | some parts =>
    obtain ⟨defaultPort, rest⟩ := parts
    have ne : afterUserInfo (stretchOf rest) ≠ [] := by
      intro empty
      rw [httpAuthority_of_scheme scheme, empty, authority_nil] at split
      cases split
    rw [httpAuthority_eq_iff scheme isHost]
    constructor
    · intro spelled
      by_cases slashed : '\\' ∈ stretchOf rest
      · exact .shadowed scheme slashed read spelled
      · obtain ⟨_, num, _, decimal, _⟩ := httpScheme_cases scheme
        have printed := isControl_of_spells (by rw [decimal]; exact isDigit_toDigits _)
          isHost spelled
        obtain ⟨num, decimal, standard, eq⟩ :=
          @readAuthority_of_stretch _ _ _ mapping scheme slashed ne printed
        rw [eq] at read
        obtain ⟨name, digits, parts, named, wrote, got⟩ := readHostAndPort_cases read
        rw [decimal] at spelled
        obtain ⟨plainHost, plainPort⟩ :=
          plain_of_spells standard named parts wrote got spelled
        exact .plain scheme slashed parts plainHost plainPort
    · intro alike
      cases alike with
      | @plain _ _ name digits scheme' unslashed parts plainHost plainPort =>
        obtain ⟨rfl, rfl⟩ := Prod.mk.inj (Option.some.inj (scheme.symm.trans scheme'))
        have printed : ∀ c ∈ afterUserInfo (stretchOf rest), isControlOrSpace c = false := by
          rw [splitPort_join parts]
          intro c mem
          rcases List.mem_append.mp mem with inside | later
          · exact isControl_of_plainHost plainHost c inside
          · cases digits with
            | none => cases later
            | some digits =>
              rcases List.mem_cons.mp later with rfl | digit
              · decide
              · rw [plainPort digits rfl] at digit
                exact isControl_of_digit (isDigit_toDigits _ c digit)
        obtain ⟨num, decimal, standard, eq⟩ :=
          @readAuthority_of_stretch _ _ _ mapping scheme unslashed ne printed
        rw [eq] at read
        obtain ⟨other, port', parts', named, wrote, got⟩ := readHostAndPort_cases read
        obtain ⟨rfl, rfl⟩ := Prod.mk.inj (parts.symm.trans parts')
        rw [decimal]
        exact spells_of_plain standard named parts wrote got plainHost plainPort
      | shadowed scheme' slashed read' spelled =>
        obtain ⟨rfl, rfl⟩ := Prod.mk.inj (Option.some.inj (scheme.symm.trans scheme'))
        obtain ⟨rfl, rfl⟩ := Prod.mk.inj (Option.some.inj (read.symm.trans read'))
        exact spelled

end

/-! ## Two URLs of one authority -/

/-- The host of a URL, with its port unless it is the default one. -/
def Url.authority (url : Url) : Option String :=
  url.hostStr.map fun host =>
    match url.port with
    | none => host
    | some port => host ++ ":" ++ toString port

/-- A parser of the standard: the host and the port of a URL of http or https are those
that the standard reads from its text. -/
structure FollowsStandard (mapping : DomainMapping) (parser : UrlParser) : Prop where
  read_of_parse : ∀ {text : String} {url : Url}, parser.parse text = .ok url →
    url.isHttp = true → ∃ host,
      readHttpAuthority mapping text.toList = some (host, url.port)
        ∧ url.hostStr = some (String.ofList host)

/-- What one authority of two URLs promises: it is the host and the port of each, and both
are fetched from one host. -/
structure OneHost (fetchedUri documentId : String) (fetched document : Url) : Prop where
  fetched_authority : remoteHttpAuthority fetchedUri = fetched.authority
  document_authority : remoteHttpAuthority documentId = document.authority
  one_host : fetched.hostStr = document.hostStr

section

variable {mapping : DomainMapping} {parser : UrlParser} {fetchedUri documentId : String}
  {fetched document : Url}

theorem read_of_parseHttpUrl {text : String} {url : Url}
    (follows : FollowsStandard mapping parser) (parsed : parseRemoteHttpUrl parser text = .ok url) :
    ∃ host, readHttpAuthority mapping (trim text).toList = some (host, url.port)
      ∧ url.hostStr = some (String.ofList host)
      ∧ url.authority = some (String.ofList (host ++ portText url.port)) := by
  unfold parseRemoteHttpUrl at parsed
  cases got : parser.parse (trim text) with
  | error msg => rw [got] at parsed; cases parsed
  | ok other =>
    rw [got] at parsed
    dsimp only at parsed
    split_ifs at parsed with isHttp
    cases parsed
    obtain ⟨host, read, named⟩ := follows.read_of_parse got isHttp
    refine ⟨host, read, named, ?_⟩
    rw [Url.authority, named, Option.map_some, Option.some_inj, ← String.toList_inj]
    cases url.port with
    | none => simp [portText]
    | some port => simp [portText, Nat.toList_repr]

theorem host_eq_of_authority_eq {host other : List Char} {port later : Option Nat}
    (isHost : IsHostText host) (isOther : IsHostText other)
    (eq : host ++ portText port = other ++ portText later) : host = other := by
  cases port with
  | none =>
    cases later with
    | none => simpa [portText] using eq
    | some num =>
      rw [portText, Option.elim_none, List.append_nil] at eq
      rw [eq] at isHost
      exact (isHost.unported (isDigit_toDigits num)).elim
  | some num =>
    cases later with
    | none =>
      rw [portText, portText, Option.elim_none, List.append_nil] at eq
      rw [← eq] at isOther
      exact (isOther.unported (isDigit_toDigits num)).elim
    | some second =>
      exact (append_separator_inj (colon_notMem_of_digits (isDigit_toDigits num))
        (colon_notMem_of_digits (isDigit_toDigits second)) eq).1

/-- Two URLs that pass for one authority are of that host exactly if the splitter and the
parser read both of them alike. -/
theorem authorities_read_alike_iff (follows : FollowsStandard mapping parser)
    (allowed : (remoteActorIdAuthorityAllowed fetchedUri documentId).isOk = true)
    (fetchedParsed : parseRemoteHttpUrl parser fetchedUri = .ok fetched)
    (documentParsed : parseRemoteHttpUrl parser documentId = .ok document) :
    OneHost fetchedUri documentId fetched document
      ↔ ReadAlike mapping fetchedUri ∧ ReadAlike mapping documentId := by
  obtain ⟨authority, ofFetched, ofDocument⟩ := authorityAllowed_iff.mp allowed
  obtain ⟨host, read, named, wrote⟩ := read_of_parseHttpUrl follows fetchedParsed
  obtain ⟨other, readOther, namedOther, writtenOther⟩ :=
    read_of_parseHttpUrl follows documentParsed
  have first := host_and_port_read_alike_iff ofFetched read
  have second := host_and_port_read_alike_iff ofDocument readOther
  rw [← wrote] at first
  rw [← writtenOther] at second
  constructor
  · intro promised
    exact ⟨first.mp promised.fetched_authority, second.mp promised.document_authority⟩
  · rintro ⟨fetchedAlike, documentAlike⟩
    refine ⟨first.mpr fetchedAlike, second.mpr documentAlike, ?_⟩
    have eq := (first.mpr fetchedAlike).symm.trans
      (ofFetched.trans (ofDocument.symm.trans (second.mpr documentAlike)))
    rw [wrote, writtenOther, Option.some_inj, String.ofList_inj] at eq
    rw [named, namedOther, host_eq_of_authority_eq (isHostText_of_read read)
      (isHostText_of_read readOther) eq]

end

/-! ### An actor and its key, and an actor behind a backslash -/

/-- A mapping that takes plain names only. -/
def lowercaseMapping : DomainMapping where
  toAscii name := if name ≠ [] ∧ isPlainName name = true then some (name.map Char.toLower) else none
  toAscii_ne_nil := by
    intro name mapped found
    split_ifs at found with plain
    rw [← Option.some.inj found]
    simpa using plain.1
  toAscii_isAscii := by
    intro name mapped found c member
    split_ifs at found with plain
    rw [← Option.some.inj found] at member
    obtain ⟨d, inside, rfl⟩ := List.mem_map.mp member
    have ascii := plain.2
    simp only [isPlainName, Bool.and_eq_true, List.all_eq_true] at ascii
    rcases toLower_cases d with own | ⟨n, below, above, rfl⟩
    · rw [own]
      exact of_decide_eq_true (ascii.1 d inside).1
    · have all : ∀ n < 91, 65 ≤ n → (Char.ofNat n).toLower.toNat < 0x80 := by decide
      exact all n below above
  toAscii_plain := by
    intro name nonempty plain
    exact if_pos ⟨nonempty, plain⟩

/-- An https URL of a host, at the default port. -/
def urlOfHost (host path : String) : Url where
  text := "https://" ++ host ++ path
  scheme := "https"
  username := ""
  password := none
  host := some (.domain host)
  hostStr := some host
  port := none
  path := path
  query := none

/-- A parser, at three texts. -/
def actorParser : UrlParser where
  parse text :=
    if text = "https://good.example/users/ana" then .ok (urlOfHost "good.example" "/users/ana")
    else if text = "https://Good.Example:443/users/ana" then
      .ok (urlOfHost "good.example" "/users/ana")
    else if text = "https://evil.example\\@good.example/users/ana" then
      .ok (urlOfHost "evil.example" "/@good.example/users/ana")
    else .error "relative URL without a base"
  join _ _ := .error "relative URL without a base"

theorem actorParser_follows : FollowsStandard lowercaseMapping actorParser where
  read_of_parse := by
    intro text url parsed _
    simp only [actorParser] at parsed
    split_ifs at parsed with good port shadowed
    · cases parsed
      subst good
      exact ⟨"good.example".toList, by decide +kernel, rfl⟩
    · cases parsed
      subst port
      exact ⟨"good.example".toList, by decide +kernel, rfl⟩
    · cases parsed
      subst shadowed
      exact ⟨"evil.example".toList, by decide +kernel, rfl⟩

/-- An actor and the spelling of its id with the default port are of one host. -/
theorem one_host_of_default_port :
    OneHost "https://Good.Example:443/users/ana" "https://good.example/users/ana"
      (urlOfHost "good.example" "/users/ana") (urlOfHost "good.example" "/users/ana") := by
  have name : ∀ name ∈ ["Good.Example", "good.example"],
      PlainHost lowercaseMapping name.toList := by
    intro name mem
    simp only [List.mem_cons, List.not_mem_nil, or_false] at mem
    rcases mem with rfl | rfl <;>
      exact .name (List.all_eq_true.mp (by decide)) (by decide) (by decide) (by decide)
  refine (authorities_read_alike_iff actorParser_follows (by decide +kernel) (by decide +kernel)
    (by decide +kernel)).mpr ⟨?_, ?_⟩
  · refine @ReadAlike.plain _ _ "443" "Good.Example:443/users/ana" "Good.Example".toList
      (some "443".toList) (by decide) (by decide) (by decide) (name _ (by decide)) ?_
    intro digits chosen
    cases chosen
    decide
  · exact @ReadAlike.plain _ _ "443" "good.example/users/ana" "good.example".toList none
      (by decide) (by decide) (by decide) (name _ (by decide)) nofun

/-- A backslash hides a host: the actor that is fetched from `evil.example` passes for one
of `good.example`. -/
theorem backslash_hides_host :
    FollowsStandard lowercaseMapping actorParser
      ∧ (remoteActorIdAuthorityAllowed "https://evil.example\\@good.example/users/ana"
          "https://good.example/users/ana").isOk = true
      ∧ parseRemoteHttpUrl actorParser "https://evil.example\\@good.example/users/ana"
        = .ok (urlOfHost "evil.example" "/@good.example/users/ana")
      ∧ parseRemoteHttpUrl actorParser "https://good.example/users/ana"
        = .ok (urlOfHost "good.example" "/users/ana")
      ∧ ¬ OneHost "https://evil.example\\@good.example/users/ana" "https://good.example/users/ana"
        (urlOfHost "evil.example" "/@good.example/users/ana")
        (urlOfHost "good.example" "/users/ana") :=
  ⟨actorParser_follows, by decide +kernel, by decide +kernel, by decide +kernel,
    fun promised => absurd promised.one_host (by decide)⟩

end Cfwdon.Federation
