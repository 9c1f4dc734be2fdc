import Mathlib
import SchemaSeed.Proofs.Traversal
import SchemaSeed.Proofs.Url.Host

/-!
URLs that are written down are read again. Every part of a URL of an ordinary scheme is held in its
written form, in which the marks around the part do not occur, so that the reader finds the parts
where the writer has put them.
-/

set_option autoImplicit false
set_option relaxedAutoImplicit false

namespace SchemaSeed.Url

open SchemaSeed.Number SchemaSeed.Text

/-! ### Texts that are cut -/

/-- A text is cut where a condition ends. -/
theorem span_append {α : Type} {p : α → Bool} {xs ys : List α} (inside : ∀ x ∈ xs, p x = true)
    (stop : ∀ y, ys.head? = some y → p y = false) :
    (xs ++ ys).takeWhile p = xs ∧ (xs ++ ys).dropWhile p = ys := by
  have here : ys.takeWhile p = [] ∧ ys.dropWhile p = ys := by
    cases ys with
    | nil => exact ⟨rfl, rfl⟩
    | cons y rest =>
      have other := stop y rfl
      exact ⟨by rw [List.takeWhile_cons, other]; rfl, by rw [List.dropWhile_cons, other]; rfl⟩
  rw [List.takeWhile_append_of_pos inside, List.dropWhile_append_of_pos inside, here.1, here.2,
    List.append_nil]
  exact ⟨rfl, rfl⟩

/-- A text without blanks and control characters. -/
def Visible (cs : List Char) : Prop := ∀ c ∈ cs, isEdge c = false

theorem Visible.nil : Visible [] := List.forall_mem_nil _

theorem Visible.cons {c : Char} {cs : List Char} (first : isEdge c = false) (rest : Visible cs) :
    Visible (c :: cs) := List.forall_mem_cons.mpr ⟨first, rest⟩

theorem Visible.append {cs ds : List Char} (first : Visible cs) (second : Visible ds) :
    Visible (cs ++ ds) := List.forall_mem_append.mpr ⟨first, second⟩

theorem isIgnored_of_visible {c : Char} (visible : isEdge c = false) : isIgnored c = false := by
  unfold isIgnored
  by_contra ignored
  simp only [Bool.or_eq_false_iff, decide_eq_false_iff_not, not_and_or, not_not] at ignored
  rcases ignored with (rfl | rfl) | rfl <;> revert visible <;> decide

/-- A class of characters is visible if those of its characters are that belong to ASCII. -/
theorem visible_of_ascii {P : Char → Bool}
    (each : ∀ n < 128, P (Char.ofNat n) = true → isEdge (Char.ofNat n) = false) {c : Char}
    (held : P c = true) : isEdge c = false := by
  by_contra edge
  have low : c.toNat ≤ 0x20 := by
    unfold isEdge at edge
    simpa using edge
  exact edge (forall_ascii (P := fun c => P c = true → isEdge c = false) each (by omega) held)

theorem clean_of_visible {cs : List Char} (visible : Visible cs) : clean cs = cs :=
  List.filter_eq_self.mpr fun c member => by
    rw [isIgnored_of_visible (visible c member)]
    rfl

/-- What stands in front of a text and is visible is kept when the text is cleaned. -/
theorem clean_trimEdges_append {front : List Char} (visible : Visible front)
    (something : front ≠ []) (rest : List Char) : clean (trimEdges (front ++ rest)) =
      front ++ clean (rest.reverse.dropWhile isEdge).reverse := by
  have untouched {cs : List Char} (some : cs ≠ []) (visible : Visible cs) (more : List Char) :
      (cs ++ more).dropWhile isEdge = cs ++ more := by
    obtain ⟨c, tail, rfl⟩ := List.exists_cons_of_ne_nil some
    rw [List.cons_append, List.dropWhile_cons, visible c List.mem_cons_self]
    rfl
  have reversed : Visible front.reverse := fun c member => visible c (List.mem_reverse.mp member)
  have backwards := untouched (by simpa using something) reversed []
  rw [List.append_nil] at backwards
  have trimmed : trimEdges (front ++ rest) = front ++ (rest.reverse.dropWhile isEdge).reverse := by
    unfold trimEdges
    rw [untouched something visible, List.reverse_append, List.dropWhile_append]
    split
    · rename_i empty
      rw [List.isEmpty_iff.mp empty, backwards, List.reverse_reverse, List.reverse_nil,
        List.append_nil]
    · rw [List.reverse_append, List.reverse_reverse]
  have both (cs ds : List Char) : clean (cs ++ ds) = clean cs ++ clean ds := List.filter_append ..
  rw [trimmed, both, clean_of_visible visible]

theorem clean_trimEdges {cs : List Char} (visible : Visible cs) : clean (trimEdges cs) = cs := by
  by_cases empty : cs = []
  · rw [empty]
    rfl
  · have whole := clean_trimEdges_append visible empty []
    rw [List.append_nil] at whole
    rw [whole]
    exact List.append_nil cs

/-! ### Parts -/

theorem Host.Written.visible {host : List Char} (written : Host.Written host) : Visible host := by
  have digit {c : Char} : isHexDigit c = true → isEdge c = false :=
    visible_of_ascii (P := isHexDigit) (by decide)
  cases written with
  | name each =>
    intro c member
    obtain ⟨plain, visible⟩ := each c member
    exact visible_of_ascii (P := fun c => !Host.separators.contains c && !controlSet c) (by decide)
      (by rw [plain, visible]; rfl)
  | address isAddress =>
    refine List.forall_mem_append.mpr ⟨List.forall_mem_cons.mpr ⟨by decide, fun c member => ?_⟩,
      List.forall_mem_singleton.mpr (by decide)⟩
    rcases Ipv6.mem_print member with isDigit | rfl
    · exact digit isDigit
    · decide

/-- A scheme without rules of its own. -/
structure IsOrdinaryScheme (scheme : String) : Prop where
  letter : scheme.toList.head?.any Char.isAlpha = true
  chars : ∀ c ∈ scheme.toList, isSchemeChar c = true ∧ c.toLower = c
  ordinary : isWellKnown scheme = false

theorem IsOrdinaryScheme.visible {scheme : String} (isScheme : IsOrdinaryScheme scheme) :
    Visible scheme.toList := fun c member =>
  visible_of_ascii (P := isSchemeChar) (by decide) (isScheme.chars c member).1

/-- It implies no port. -/
theorem IsOrdinaryScheme.defaultPort?_eq_none {scheme : String}
    (isScheme : IsOrdinaryScheme scheme) : defaultPort? scheme = none := by
  have ordinary := isScheme.ordinary
  unfold defaultPort?
  split <;> simp_all [isWellKnown]

theorem cutScheme_append {scheme : String} (isScheme : IsOrdinaryScheme scheme) (rest : List Char) :
    cutScheme (scheme.toList ++ ':' :: rest) = some (scheme, rest) := by
  have colon : ∀ c, (':' :: rest).head? = some c → isSchemeChar c = false := by
    rintro c ⟨⟩
    decide
  obtain ⟨taken, dropped⟩ := span_append (fun c member => (isScheme.chars c member).1) colon
  have lower : scheme.toList.map Char.toLower = scheme.toList := by
    rw [List.map_congr_left fun c member => (isScheme.chars c member).2, List.map_id']
  have letter := isScheme.letter
  unfold cutScheme
  rw [taken, dropped]
  rcases first : scheme.toList with _ | ⟨c, more⟩
  · rw [first] at letter
    cases letter
  · rw [first] at letter lower
    dsimp only
    rw [lower, ← first, String.ofList_toList, first]
    exact if_pos letter

/-- What stands after the last sign of the credentials, and what stands before it. -/
theorem cutAtLast_append (cs : List Char) {ds : List Char} (last : '@' ∉ ds) :
    cutAtLast (cs ++ '@' :: ds) = some (cs, ds) := by
  have behind : ((cs ++ '@' :: ds).reverse.takeWhile (· ≠ '@')).reverse = ds := by
    have inside : ∀ c ∈ ds.reverse, decide (c ≠ '@') = true := fun c member => by
      have among : c ∈ ds := List.mem_reverse.mp member
      simpa using ne_of_mem_of_not_mem among last
    have sign : ∀ c, ('@' :: cs.reverse).head? = some c → decide (c ≠ '@') = false := by
      rintro c ⟨⟩
      decide
    have split := (span_append inside sign).1
    rw [List.reverse_append, List.reverse_cons, List.append_assoc, List.singleton_append, split,
      List.reverse_reverse]
  have holds : (cs ++ '@' :: ds).contains '@' = true := by simp
  unfold cutAtLast
  rw [if_pos holds]
  dsimp only
  rw [behind]
  have length : (cs ++ '@' :: ds).length - ds.length - 1 = cs.length := by
    rw [List.length_append, List.length_cons]
    omega
  rw [length, List.take_left']
  rfl

theorem cutAtLast_of_notMem {cs : List Char} (none : '@' ∉ cs) : cutAtLast cs = .none := by
  unfold cutAtLast
  rw [if_neg (by simpa using none)]

section

variable {host rest : List Char}

/-- What can follow a host. -/
def EndsHost (rest : List Char) : Prop :=
  ∀ c, rest.head? = some c → c = ':' ∨ endsAuthority false c = true

private theorem cutHost_stop (ends : EndsHost rest) : cutHost false false rest = ([], rest) := by
  cases rest with
  | nil => rfl
  | cons c more =>
    unfold cutHost
    rw [if_pos]
    rcases ends c rfl with rfl | stop
    · exact .inl ⟨rfl, rfl⟩
    · exact .inr stop

private theorem cutHost_cons {inBrackets : Bool} {c : Char}
    (inside : ¬ ((c = ':' ∧ !inBrackets) ∨ endsAuthority false c = true)) :
    cutHost false inBrackets (c :: rest) =
      (cutHost false (if c = '[' then true else if c = ']' then false else inBrackets) rest).map
        (c :: ·) id := by
  rw [cutHost, if_neg inside]
  rfl

/-- An address ends with its bracket; no colon in it ends the host. -/
private theorem cutHost_bracketed (ends : EndsHost rest) {inner : List Char}
    (digits : ∀ c ∈ inner, isHexDigit c = true ∨ c = ':') :
    cutHost false true (inner ++ ']' :: rest) = (inner ++ [']'], rest) := by
  induction inner with
  | nil =>
    rw [List.nil_append, cutHost_cons (by decide), if_neg (by decide), if_pos rfl,
      cutHost_stop ends]
    rfl
  | cons c more ih =>
    obtain ⟨first, others⟩ := List.forall_mem_cons.mp digits
    have other {d : Char} (mark : isHexDigit d = false) (colon : d ≠ ':') : c ≠ d := by
      rintro rfl
      rcases first with digit | same
      · rw [mark] at digit
        cases digit
      · exact colon same
    have stays : ¬ ((c = ':' ∧ !true) ∨ endsAuthority false c = true) := by
      simp [endsAuthority, other (d := '/') (by decide) (by decide),
        other (d := '?') (by decide) (by decide), other (d := '#') (by decide) (by decide)]
    rw [List.cons_append, cutHost_cons stays, if_neg (other (by decide) (by decide)),
      if_neg (other (by decide) (by decide)), ih others]
    rfl

/-- Of the characters of a host, none but those of an address ends it, and these stand in
brackets. -/
theorem cutHost_append (written : Host.Written host) (ends : EndsHost rest) :
    cutHost false false (host ++ rest) = (host, rest) := by
  cases written with
  | name each =>
    induction host with
    | nil => exact cutHost_stop ends
    | cons c more ih =>
      obtain ⟨⟨first, -⟩, others⟩ := List.forall_mem_cons.mp each
      have other {d : Char} (mark : Host.separators.contains d = true) : c ≠ d := by
        rintro rfl
        rw [first] at mark
        cases mark
      have inside : ¬ ((c = ':' ∧ !false) ∨ endsAuthority false c = true) := by
        simp [endsAuthority, other (d := ':') (by decide), other (d := '/') (by decide),
          other (d := '?') (by decide), other (d := '#') (by decide)]
      rw [List.cons_append, cutHost_cons inside, if_neg (other (by decide)), ite_self, ih others]
      rfl
  | @address pieces isAddress =>
    have outside : ¬ (('[' = ':' ∧ !false) ∨ endsAuthority false '[' = true) := by decide
    have grouped : '[' :: Ipv6.print pieces ++ [']'] ++ rest =
        '[' :: (Ipv6.print pieces ++ ']' :: rest) := by simp
    rw [grouped, cutHost_cons outside, if_pos rfl,
      cutHost_bracketed ends fun c member => Ipv6.mem_print member]
    rfl

end

/-- What follows a port. -/
def EndsPort (rest : List Char) : Prop := ∀ c, rest.head? = some c → endsAuthority true c = true

/-- A port that is written is read. -/
theorem cutPort_append {port : Nat} (small : port < 65536) {rest : List Char}
    (ends : EndsPort rest) : cutPort ((toString port).toList ++ rest) = .ok (some port, rest) := by
  have stops : ∀ c, rest.head? = some c → c.isDigit = false := by
    intro c first
    by_contra digit
    have ended := ends c first
    simp only [endsAuthority, Bool.true_and, Bool.or_eq_true, decide_eq_true_eq] at ended
    rcases ended with ((rfl | rfl) | rfl) | rfl <;> revert digit <;> decide
  have digits : ∀ c ∈ (toString port).toList, c.isDigit = true := by
    rw [toList_toString]
    exact List.all_eq_true.mp (all_isDigit_toDigits port)
  obtain ⟨taken, dropped⟩ := span_append digits stops
  have value : digitsValue 0 (toString port).toList = port := by
    rw [toList_toString, digitsValue_toDigits]
  have something : (toString port).toList.isEmpty = false := by
    rw [toList_toString]
    simp
  unfold cutPort
  rw [taken, dropped]
  dsimp only
  rw [value, something, if_neg (by omega)]
  cases rest with
  | nil => rfl
  | cons c more =>
    dsimp only
    rw [ends c rfl]
    rfl

/-- The path, the query and the fragment that are written are read. -/
theorem withRest_eq {u : Url} (ordinary : isWellKnown u.scheme = false) {path : List (List Char)}
    (isPath : IsPath path) {query fragment : Option (List Char)}
    (plain : ∀ q, query = some q → Free querySet q)
    (plain' : ∀ f, fragment = some f → Free fragmentSet f) :
    u.withRest (pathText path ++ printOption '?' query ++ printOption '#' fragment) =
      { u with path, query, fragment } := by
  have free := free_pathText isPath
  have noMark {c d : Char} {set : EncodeSet} (apart : set c = false) (mark : set d = true) :
      decide (c ≠ d) = true := by
    refine decide_eq_true ?_
    rintro rfl
    rw [apart] at mark
    cases mark
  have beforeFragment : ∀ c ∈ pathText path ++ printOption '?' query, decide (c ≠ '#') = true := by
    refine List.forall_mem_append.mpr ⟨fun c member => noMark (free c member) (by decide), ?_⟩
    cases query with
    | none => exact List.forall_mem_nil _
    | some q =>
      exact List.forall_mem_cons.mpr ⟨by decide, fun c member =>
        noMark (plain q rfl c member) (by decide)⟩
  have beforeQuery : ∀ c ∈ pathText path, decide (c ≠ '?') = true :=
    fun c member => noMark (free c member) (by decide)
  have starts (mark : Char) (part : Option (List Char)) :
      ∀ c, (printOption mark part).head? = some c → decide (c ≠ mark) = false := by
    cases part <;> rintro c ⟨⟩
    simp
  obtain ⟨main, afterMain⟩ := span_append beforeFragment (starts '#' fragment)
  obtain ⟨first, afterFirst⟩ := span_append beforeQuery (starts '?' query)
  unfold withRest
  rw [main, afterMain]
  dsimp only
  rw [first, afterFirst, ordinary]
  congr 1
  · exact pathOf_pathText isPath
  · cases query with
    | none => rfl
    | some q => exact congrArg some (encode_of_free (plain q rfl))
  · cases fragment with
    | none => rfl
    | some f => exact congrArg some (encode_of_free (plain' f rfl))

/-- User name and password that are written are read. -/
theorem withCredentials_eq {u : Url} {username password : List Char}
    (plain : Free userinfoSet username) (plain' : Free userinfoSet password) :
    u.withCredentials (username ++ if password.isEmpty then [] else ':' :: password) =
      { u with username, password } := by
  have noColon : ∀ c ∈ username, decide (c ≠ ':') = true := by
    intro c member
    refine decide_eq_true ?_
    rintro rfl
    exact absurd (plain _ member) (by decide)
  have starts : ∀ c, (if password.isEmpty then [] else ':' :: password).head? = some c →
      decide (c ≠ ':') = false := by
    cases password <;> rintro c ⟨⟩
    decide
  obtain ⟨first, after⟩ := span_append noColon starts
  unfold withCredentials
  rw [first, after, encode_of_free plain]
  cases password with
  | nil => rfl
  | cons c rest =>
    change { u with username, password := encode userinfoSet (c :: rest) } = _
    rw [encode_of_free plain']

/-- Behind an ordinary scheme and two slashes stands an authority. -/
private theorem parse_of_ordinary {scheme text : String} {rest : List Char}
    (isScheme : IsOrdinaryScheme scheme)
    (cleaned : clean (trimEdges text.toList) = scheme.toList ++ ':' :: '/' :: '/' :: rest) :
    parse text = readAuthority scheme rest := by
  have ordinary := isScheme.ordinary
  have noFile : scheme ≠ "file" := by
    rintro rfl
    revert ordinary
    decide
  unfold parse
  rw [cleaned, cutScheme_append isScheme]
  dsimp only
  rw [if_neg noFile, ordinary, if_neg Bool.false_ne_true]
  rfl

/-! ### Whole URLs -/

/-- A URL of an ordinary scheme with a host, whose parts are in their written form. -/
structure IsWritten (u : Url) : Prop where
  scheme : IsOrdinaryScheme u.scheme
  authority : u.hasAuthority = true
  username : Free userinfoSet u.username
  password : Free userinfoSet u.password
  host : Host.Written u.host
  named : u.host ≠ []
  port : ∀ port, u.port = some port → port < 65536
  path : IsPath u.path
  tail : u.tail = []
  query : ∀ q, u.query = some q → Free querySet q
  fragment : ∀ f, u.fragment = some f → Free fragmentSet f

/-- The written form of a port. -/
def printPort (port : Option Nat) : List Char :=
  match port with
  | some port => ':' :: (toString port).toList
  | none => []

/-- What is written after the authority. -/
def afterAuthority (u : Url) : List Char :=
  pathText u.path ++ printOption '?' u.query ++ printOption '#' u.fragment

/-- What follows the authority ends it. -/
private theorem ends_afterAuthority (u : Url) :
    ∀ c, u.afterAuthority.head? = some c → endsAuthority false c = true := by
  intro c first
  unfold afterAuthority at first
  cases path : u.path with
  | cons part rest =>
    rw [path, pathText_cons] at first
    obtain rfl := Option.some.inj first
    decide
  | nil =>
    cases query : u.query with
    | some q =>
      rw [path, query] at first
      obtain rfl := Option.some.inj first
      decide
    | none =>
      cases fragment : u.fragment with
      | some f =>
        rw [path, query, fragment] at first
        obtain rfl := Option.some.inj first
        decide
      | none =>
        rw [path, query, fragment] at first
        cases first

namespace IsWritten

variable {u : Url} (written : u.IsWritten)
include written

theorem toList_print : u.print.toList = u.scheme.toList ++ ':' :: '/' :: '/' ::
    (u.printCredentials ++ (u.host ++ printPort u.port) ++ u.afterAuthority) := by
  unfold print printPath afterAuthority
  rw [written.authority, written.tail, String.toList_ofList]
  simp only [if_true, List.nil_append, List.append_assoc, List.cons_append]
  rfl

private theorem notMem_named {d : Char} (separates : Host.separators.contains d = true)
    (digit : isHexDigit d = false) (other : d ∉ ['[', ':', ']']) :
    d ∉ u.host ++ printPort u.port := by
  rw [List.mem_append, not_or]
  refine ⟨written.host.notMem separates digit other, fun member => ?_⟩
  cases port : u.port with
  | none =>
    rw [port] at member
    cases member
  | some n =>
    rw [port] at member
    rcases List.mem_cons.mp member with rfl | within
    · exact other (by decide)
    · rw [toList_toString] at within
      have decimal := List.all_eq_true.mp (all_isDigit_toDigits n) d within
      unfold isHexDigit hexValue? at digit
      rw [if_pos decimal] at digit
      cases digit

private theorem notMem_credentials {d : Char} (set : userinfoSet d = true)
    (other : d ∉ [':', '@']) : d ∉ u.printCredentials := by
  have apart {cs : List Char} (free : Free userinfoSet cs) : d ∉ cs := by
    intro member
    rw [free d member] at set
    cases set
  have marks : d ≠ ':' ∧ d ≠ '@' := by simpa using other
  have name := apart written.username
  have word := apart written.password
  unfold printCredentials
  split
  · exact List.not_mem_nil
  · split <;> simp [name, word, marks]

/-- No sign that ends the authority is in it. -/
private theorem within_authority :
    ∀ c ∈ u.printCredentials ++ (u.host ++ printPort u.port), endsAuthority false c = false := by
  intro c member
  have other {d : Char} (set : userinfoSet d = true) (separates : Host.separators.contains d = true)
      (digit : isHexDigit d = false) (mark : d ∉ ['[', ':', ']']) (mark' : d ∉ [':', '@']) :
      c ≠ d := by
    rintro rfl
    rcases List.mem_append.mp member with first | second
    · exact written.notMem_credentials set mark' first
    · exact written.notMem_named separates digit mark second
  simp [endsAuthority, other (d := '/') (by decide) (by decide) (by decide) (by decide) (by decide),
    other (d := '?') (by decide) (by decide) (by decide) (by decide) (by decide),
    other (d := '#') (by decide) (by decide) (by decide) (by decide) (by decide)]

/-- The host and the port are read from what follows the credentials. -/
private theorem cutHost_named :
    cutHost false false (u.host ++ printPort u.port ++ u.afterAuthority) =
      (u.host, printPort u.port ++ u.afterAuthority) := by
  rw [List.append_assoc]
  refine cutHost_append written.host fun c first => ?_
  cases port : u.port with
  | none =>
    rw [port] at first
    exact .inr (ends_afterAuthority u c first)
  | some n =>
    rw [port] at first
    exact .inl (Option.some.inj first).symm

private theorem cutPort_written {n : Nat} (given : u.port = some n) :
    cutPort ((toString n).toList ++ u.afterAuthority) = .ok (some n, u.afterAuthority) := by
  refine cutPort_append (written.port n given) fun c first => ?_
  have ends := ends_afterAuthority u c first
  unfold endsAuthority at ends ⊢
  rw [Bool.or_eq_true] at ends ⊢
  exact ends.imp_right fun impossible => by cases impossible

private theorem readCredentials_eq :
    readCredentials u.scheme (u.printCredentials ++ (u.host ++ printPort u.port)) u.afterAuthority =
      .ok ({ scheme := u.scheme, username := u.username, password := u.password },
        u.host ++ printPort u.port) := by
  have noSign : '@' ∉ u.host ++ printPort u.port :=
    written.notMem_named (by decide) (by decide) (by decide)
  unfold readCredentials printCredentials
  by_cases without : (u.username.isEmpty && u.password.isEmpty) = true
  · obtain ⟨name, word⟩ := Bool.and_eq_true_iff.mp without
    rw [if_pos without, List.nil_append, cutAtLast_of_notMem noSign, List.isEmpty_iff.mp name,
      List.isEmpty_iff.mp word]
  · have cut := cutAtLast_append
      (u.username ++ if u.password.isEmpty then [] else ':' :: u.password) noSign
    have something : (u.username ++ if u.password.isEmpty then [] else ':' :: u.password).isEmpty =
        false := by
      cases name : u.username with
      | cons c rest => rfl
      | nil =>
        cases word : u.password with
        | cons c rest => rfl
        | nil => simp [name, word] at without
    rw [if_neg without, List.append_assoc _ ['@'], List.singleton_append, cut]
    dsimp only
    rw [something, withCredentials_eq written.username written.password]
    rfl

private theorem readPort_eq :
    readPort (printPort u.port ++ u.afterAuthority) = .ok (u.port, u.afterAuthority) := by
  cases port : u.port with
  | some n => exact written.cutPort_written port
  | none =>
    change readPort u.afterAuthority = _
    unfold readPort
    split
    · rename_i colon
      have ends := ends_afterAuthority u ':' (by rw [colon]; rfl)
      exact absurd ends (by decide)
    · rfl

private theorem readAuthority_eq :
    readAuthority u.scheme
      (u.printCredentials ++ (u.host ++ printPort u.port) ++ u.afterAuthority) = .ok u := by
  obtain ⟨taken, dropped⟩ := span_append (p := fun c => !endsAuthority false c)
    (fun c member => by rw [written.within_authority c member]; rfl)
    (fun c first => by rw [ends_afterAuthority u c first]; rfl)
  have named : u.host.isEmpty = false := by simpa using written.named
  have ordinary := written.scheme.ordinary
  unfold readAuthority
  rw [ordinary]
  dsimp only
  rw [taken, dropped, written.readCredentials_eq]
  change (do
    let host ← readHost false
      (cutHost false false (u.host ++ printPort u.port ++ u.afterAuthority)).1
    ({ scheme := u.scheme, username := u.username, password := u.password } : Url).withHost host
      (cutHost false false (u.host ++ printPort u.port ++ u.afterAuthority)).2) = _
  have read : readHost false u.host = .ok u.host := written.host.opaqueHost
  rw [written.cutHost_named, read]
  change ({ scheme := u.scheme, username := u.username, password := u.password } : Url).withHost
    u.host (printPort u.port ++ u.afterAuthority) = _
  unfold withHost
  rw [named, written.readPort_eq, Bool.false_and, if_neg Bool.false_ne_true]
  dsimp only
  rw [Bool.false_and, if_neg Bool.false_ne_true, written.scheme.defaultPort?_eq_none]
  have port : (if u.port = none then none else u.port) = u.port := by
    cases u.port <;> rfl
  rw [port]
  unfold afterAuthority
  rw [withRest_eq (by exact ordinary) written.path written.query written.fragment]
  have authority := written.authority
  have tail := written.tail
  obtain ⟨⟩ := u
  cases authority
  cases tail
  rfl

/-- A URL is written without blanks and control characters. -/
theorem visible_print : Visible u.print.toList := by
  have free {set : EncodeSet} {cs : List Char}
      (each : ∀ n < 128, (!set (Char.ofNat n)) = true → isEdge (Char.ofNat n) = false)
      (free : Free set cs) : Visible cs := fun c member =>
    visible_of_ascii (P := fun c => !set c) each (by rw [free c member]; rfl)
  have option {set : EncodeSet} {part : Option (List Char)} {c : Char} (mark : isEdge c = false)
      (each : ∀ n < 128, (!set (Char.ofNat n)) = true → isEdge (Char.ofNat n) = false)
      (frees : ∀ cs, part = some cs → Free set cs) : Visible (printOption c part) := by
    cases part with
    | none => exact .nil
    | some cs => exact .cons mark (free each (frees cs rfl))
  have credentials : Visible u.printCredentials := by
    have name := free (by decide) written.username
    have word := free (by decide) written.password
    unfold printCredentials
    split
    · exact .nil
    · refine (name.append ?_).append (.cons (by decide) .nil)
      split
      · exact .nil
      · exact .cons (by decide) word
  have port : Visible (printPort u.port) := by
    cases u.port with
    | none => exact .nil
    | some n =>
      refine .cons (by decide) fun c member => ?_
      rw [toList_toString] at member
      exact visible_of_ascii (P := Char.isDigit) (by decide)
        (List.all_eq_true.mp (all_isDigit_toDigits n) c member)
  have after : Visible u.afterAuthority :=
    ((free (by decide) (free_pathText written.path)).append
      (option (by decide) (by decide) written.query)).append
        (option (by decide) (by decide) written.fragment)
  rw [written.toList_print]
  exact written.scheme.visible.append (.cons (by decide) (.cons (by decide) (.cons (by decide)
    ((credentials.append (written.host.visible.append port)).append after))))

/-- A URL that is written down is read again. -/
theorem parse_print : parse u.print = .ok u := by
  rw [← written.readAuthority_eq]
  refine parse_of_ordinary written.scheme ?_
  rw [clean_trimEdges written.visible_print, written.toList_print]

end IsWritten

/-! ### What is read -/

private theorem readPort_lt {cs rest : List Char} {port : Option Nat}
    (read : readPort cs = .ok (port, rest)) : ∀ n, port = some n → n < 65536 := by
  unfold readPort at read
  split at read
  · unfold cutPort at read
    dsimp only at read
    split at read
    · cases read
    · rename_i small
      have shown {port : Option Nat} {digits : List Char}
          (same : (if digits.isEmpty then none else some (digitsValue 0 digits)) = port)
          (small : ¬ 65535 < digitsValue 0 digits) : ∀ n, port = some n → n < 65536 := by
        rintro n rfl
        split at same
        · cases same
        · obtain rfl := Option.some.inj same
          omega
      split at read
      · exact shown (Prod.mk.inj (Except.ok.inj read)).1 small
      · split at read
        · exact shown (Prod.mk.inj (Except.ok.inj read)).1 small
        · cases read
  · rintro n rfl
    cases read

private theorem readCredentials_free {scheme : String} {authority after named : List Char} {u : Url}
    (read : readCredentials scheme authority after = .ok (u, named)) :
    ∃ username password, u = { scheme, username, password } ∧ Free userinfoSet username ∧
      Free userinfoSet password := by
  unfold readCredentials at read
  split at read
  · obtain ⟨rfl, -⟩ := Prod.mk.inj (Except.ok.inj read)
    exact ⟨[], [], rfl, List.forall_mem_nil _, List.forall_mem_nil _⟩
  · split at read
    · cases read
    · obtain ⟨rfl, -⟩ := Prod.mk.inj (Except.ok.inj read)
      exact ⟨_, _, rfl, free_encode keepsEscapes_userinfoSet _,
        free_encode keepsEscapes_userinfoSet _⟩

/-- What is set behind the authority is in its written form. -/
private theorem withRest_written (u : Url) (cs : List Char) :
    IsPath (u.withRest cs).path ∧ (∀ q, (u.withRest cs).query = some q → Free querySet q) ∧
      ∀ f, (u.withRest cs).fragment = some f → Free fragmentSet f := by
  unfold withRest
  dsimp only
  refine ⟨isPath_pathOf _, fun q given => ?_, fun f given => ?_⟩
  · split at given
    · obtain rfl := Option.some.inj given
      exact free_encode keepsEscapes_querySet _
    · cases given
  · split at given
    · obtain rfl := Option.some.inj given
      exact free_encode keepsEscapes_fragmentSet _
    · cases given

/-- What is read after two slashes is a URL in its written form, if it has a host. -/
theorem isWritten_of_readAuthority {scheme : String} {cs : List Char} {u : Url}
    (isScheme : IsOrdinaryScheme scheme) (read : readAuthority scheme cs = .ok u)
    (named : u.host ≠ []) : u.IsWritten ∧ u.scheme = scheme := by
  unfold readAuthority at read
  rw [isScheme.ordinary] at read
  obtain ⟨⟨start, text⟩, credentials, others⟩ := Traversal.bind_eq_ok_iff.mp read
  obtain ⟨host, hosts, rest⟩ := Traversal.bind_eq_ok_iff.mp others
  obtain ⟨username, password, rfl, name, word⟩ := readCredentials_free credentials
  have written := Host.written_of_opaqueHost hosts
  unfold withHost at rest
  split at rest
  · cases rest
  · split at rest
    · cases rest
    · rename_i port tail ported
      split at rest
      · cases rest
      · obtain rfl := Except.ok.inj rest
        obtain ⟨path, query, fragment⟩ := withRest_written _ tail
        refine ⟨⟨isScheme, rfl, name, word, written, named, fun n given => ?_, path, rfl, query,
          fragment⟩, rfl⟩
        refine readPort_lt ported n ?_
        revert given
        dsimp only [withRest]
        split
        · rintro ⟨⟩
        · exact id

/-- What is read of a text that begins with an ordinary scheme and two slashes is a URL in its
written form, if it has a host. -/
theorem isWritten_of_parse {scheme rest : String} {u : Url} (isScheme : IsOrdinaryScheme scheme)
    (read : parse (scheme ++ "://" ++ rest) = .ok u) (named : u.host ≠ []) :
    u.IsWritten ∧ u.scheme = scheme := by
  have visible : Visible (scheme.toList ++ [':', '/', '/']) :=
    isScheme.visible.append (.cons (by decide) (.cons (by decide) (.cons (by decide) .nil)))
  have cleaned := clean_trimEdges_append visible (by simp) rest.toList
  have whole :
      (scheme ++ "://" ++ rest).toList = scheme.toList ++ [':', '/', '/'] ++ rest.toList := by
    rw [String.toList_append, String.toList_append]
    rfl
  rw [← whole, List.append_assoc] at cleaned
  rw [parse_of_ordinary isScheme cleaned] at read
  exact isWritten_of_readAuthority isScheme read named

/-! ### What is changed -/

section

variable {u u' : Url}

theorem of_setPort? {port : Nat} (set : u.setPort? port = some u') :
    u.host ≠ [] ∧
      u' = { u with port := if defaultPort? u.scheme = some port then none else some port } := by
  unfold setPort? at set
  split at set
  · cases set
  · rename_i hosted
    refine ⟨?_, (Option.some.inj set).symm⟩
    rintro none
    rw [none] at hosted
    exact hosted rfl

theorem of_setUsername? {name : String} (set : u.setUsername? name = some u') :
    u' = { u with username := encode userinfoSet name.toList } := by
  unfold setUsername? at set
  split at set <;> cases set
  rfl

theorem of_setPassword? {password : String} (set : u.setPassword? password = some u') :
    u' = { u with password := encode userinfoSet password.toList } := by
  unfold setPassword? at set
  split at set <;> cases set
  rfl

end

end SchemaSeed.Url
