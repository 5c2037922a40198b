import PodCommand.Proofs.Target.Name
import PodCommand.Proofs.Text.FormEncoding
import PodCommand.Request

namespace PodCommand
namespace Request

/-!
What the URL of a request tells a server.

A URL that has been built holds only characters that a request line may hold.  Its path names the
pod of the target and has no further segment, because checked names hold no slash and no question
mark; and its query, read as a server reads it, is the list of streams, the container and the words
of the command, octet by octet.  So the URL decides the request: nothing in a command can pass for
another parameter, and two requests with one URL are the same.
-/

/-! ## Characters of a request line -/

/-- The characters of paths and queries besides the percent sign: the unreserved ones, the
sub-delimiters, and the colon, the at sign, the slash and the question mark. -/
def isUrlChar (c : Char) : Bool :=
  c.isAlphanum ||
    ['-', '.', '_', '~', '!', '$', '&', '\'', '(', ')', '*', '+', ',', ';', '=', ':', '@', '/',
      '?'].contains c

/-- Whether a text is made of such characters and of octets in the form `%XX`. -/
def isUrl : List Char → Bool
  | [] => true
  | '%' :: first :: second :: rest =>
    (Text.hexValue? first).isSome && (Text.hexValue? second).isSome && isUrl rest
  | c :: rest => isUrlChar c && isUrl rest

theorem isUrl_cons {c : Char} (plain : isUrlChar c = true) (rest : List Char) :
    isUrl (c :: rest) = isUrl rest := by
  have notPercent : c ≠ '%' := by
    rintro rfl
    exact absurd plain (by decide)
  rw [isUrl, plain, Bool.true_and]
  exact fun _ _ _ same => absurd same notPercent

theorem isUrl_append {text : List Char} (plain : ∀ c ∈ text, isUrlChar c = true)
    (rest : List Char) : isUrl (text ++ rest) = isUrl rest := by
  induction text with
  | nil => rfl
  | cons c text ih =>
      rw [List.cons_append, isUrl_cons (plain c List.mem_cons_self),
        ih fun other member => plain other (List.mem_cons_of_mem _ member)]

theorem isAscii_of_le {c d : Char} (below : c ≤ d) (ascii : d.toNat < 0x80) : c.toNat < 0x80 :=
  Nat.lt_of_le_of_lt (UInt32.le_iff_toNat_le.mp below) ascii

theorem isAscii_of_isUrlChar {c : Char} (plain : isUrlChar c = true) : c.toNat < 0x80 := by
  rw [isUrlChar, Bool.or_eq_true] at plain
  rcases plain with alphanumeric | special
  · rcases Bool.or_eq_true_iff.mp alphanumeric with alpha | digit
    · rcases Bool.or_eq_true_iff.mp alpha with upper | lower
      · exact isAscii_of_le (d := 'Z') (of_decide_eq_true upper).2 (by decide)
      · have last := of_decide_eq_true (Bool.and_eq_true_iff.mp lower).2
        exact isAscii_of_le (d := 'z') last (by decide)
    · have last := of_decide_eq_true (Bool.and_eq_true_iff.mp digit).2
      exact isAscii_of_le (d := '9') last (by decide)
  · rw [List.contains_iff_mem] at special
    simp only [List.mem_cons, List.not_mem_nil, or_false] at special
    rcases special with rfl | rfl | rfl | rfl | rfl | rfl | rfl | rfl | rfl | rfl | rfl | rfl |
      rfl | rfl | rfl | rfl | rfl | rfl | rfl <;> decide

theorem isAscii_of_hexValue? {c : Char} (digit : (Text.hexValue? c).isSome = true) :
    c.toNat < 0x80 := by
  simp only [Text.hexValue?, Bool.and_eq_true, decide_eq_true_eq] at digit
  split at digit
  · rename_i decimal
    exact isAscii_of_le decimal.2 (by decide)
  · split at digit
    · rename_i lower
      exact isAscii_of_le lower.2 (by decide)
    · split at digit
      · rename_i upper
        exact isAscii_of_le upper.2 (by decide)
      · cases digit

/-- Such a text is plain ASCII. -/
theorem isAscii_of_isUrl {text : List Char} (legal : isUrl text = true) :
    ∀ c ∈ text, c.toNat < 0x80 := by
  fun_induction isUrl text with
  | case1 => exact fun _ member => absurd member List.not_mem_nil
  | case2 first second rest ih =>
      simp only [Bool.and_eq_true] at legal
      rcases legal with ⟨⟨high, low⟩, later⟩
      intro c member
      rcases List.mem_cons.mp member with rfl | member
      · decide
      · rcases List.mem_cons.mp member with rfl | member
        · exact isAscii_of_hexValue? high
        · rcases List.mem_cons.mp member with rfl | member
          · exact isAscii_of_hexValue? low
          · exact ih later c member
  | case3 c rest _ ih =>
      rw [Bool.and_eq_true] at legal
      intro other member
      rcases List.mem_cons.mp member with rfl | member
      · exact isAscii_of_isUrlChar legal.1
      · exact ih legal.2 other member

/-! ## What is written -/

theorem isUrl_encodeOctet (b : UInt8) (rest : List Char) :
    isUrl (Text.FormEncoding.encodeOctet b ++ rest) = isUrl rest := by
  have all : ∀ n < 256, Text.FormEncoding.isKept n.toUInt8 = true →
      isUrlChar (Char.ofNat n) = true := by
    decide +kernel
  unfold Text.FormEncoding.encodeOctet
  split
  · rename_i kept
    have back : b.toNat.toUInt8 = b := UInt8.ofNat_toNat
    exact isUrl_cons (all b.toNat b.toNat_lt (back.symm ▸ kept)) rest
  · split
    · exact isUrl_cons (by decide) rest
    · have high := Text.FormEncoding.hexValue?_hexDigit
        (show b.toNat / 16 < 16 by have := b.toNat_lt; omega)
      have low := Text.FormEncoding.hexValue?_hexDigit
        (Nat.mod_lt b.toNat (show 0 < 16 by decide))
      rw [List.cons_append, List.cons_append, List.singleton_append, isUrl, high, low]
      rfl

theorem isUrl_encode (value rest : List Char) :
    isUrl (Text.FormEncoding.encode value ++ rest) = isUrl rest := by
  unfold Text.FormEncoding.encode
  induction Text.Utf8.encode value with
  | nil => rfl
  | cons b bytes ih => rw [List.flatMap_cons, List.append_assoc, isUrl_encodeOctet, ih]

theorem isUrl_query (pairs : List (String × String)) : isUrl (query pairs) = true := by
  induction pairs with
  | nil => rfl
  | cons pair pairs ih =>
      unfold query Text.FormEncoding.encodePair
      rw [List.flatMap_cons, List.cons_append, isUrl_cons (by decide), List.append_assoc,
        isUrl_encode, List.cons_append, isUrl_cons (by decide), isUrl_encode]
      exact ih

/-! ## The path -/

/-- The path of a pod's commands. -/
def podPath (ns name : String) : String :=
  "/api/v1/namespaces/" ++ ns ++ "/pods/" ++ name ++ "/exec"

/-- The segments of that path. -/
def podSegments (ns name : String) : List String :=
  ["api", "v1", "namespaces", ns, "pods", name, "exec"]

theorem execUrl_podsPath (ns name : String) (pairs : List (String × String)) :
    (execUrl (podsPath ns) name pairs).toList = (podPath ns name).toList ++ '?' :: query pairs := by
  have joint : "/pods/".toList = "/pods".toList ++ "/".toList := by decide
  unfold execUrl podsPath podPath
  simp only [String.toList_append, String.toList_ofList]
  rw [joint]
  simp only [List.append_assoc]

theorem toList_podPath (ns name : String) :
    (podPath ns name).toList =
      (podSegments ns name).flatMap fun segment => '/' :: segment.toList := by
  have start : "/api/v1/namespaces/".toList =
      '/' :: "api".toList ++ '/' :: "v1".toList ++ '/' :: "namespaces".toList ++ ['/'] := rfl
  have middle : "/pods/".toList = '/' :: "pods".toList ++ ['/'] := by decide
  have last : "/exec".toList = '/' :: "exec".toList := by decide
  unfold podPath podSegments
  simp only [String.toList_append]
  rw [start, middle, last]
  simp only [List.flatMap_cons, List.flatMap_nil, List.append_assoc, List.cons_append,
    List.nil_append, List.append_nil]

/-- A character of a name may stand in a URL and ends neither a segment nor the path. -/
theorem isUrlChar_of_isLabelChar {c : Char} (char : isLabelChar c = true) :
    isUrlChar c = true ∧ c ≠ '/' ∧ c ≠ '?' := by
  simp only [isLabelChar, Bool.or_eq_true, Bool.and_eq_true, decide_eq_true_eq, beq_iff_eq] at char
  have alphanumeric : c.isAlphanum = true → isUrlChar c = true := fun alphanumeric => by
    rw [isUrlChar, alphanumeric, Bool.true_or]
  rcases char with (⟨low, high⟩ | ⟨low, high⟩) | rfl
  · have lower : c.isLower = true :=
      Bool.and_eq_true_iff.mpr ⟨decide_eq_true low, decide_eq_true high⟩
    have alpha : c.isAlpha = true := Bool.or_eq_true_iff.mpr (.inr lower)
    refine ⟨alphanumeric (Bool.or_eq_true_iff.mpr (.inl alpha)), ?_, ?_⟩
    · rintro rfl
      exact absurd low (by decide)
    · rintro rfl
      exact absurd low (by decide)
  · have digit : c.isDigit = true :=
      Bool.and_eq_true_iff.mpr ⟨decide_eq_true low, decide_eq_true high⟩
    refine ⟨alphanumeric (Bool.or_eq_true_iff.mpr (.inr digit)), ?_, ?_⟩
    · rintro rfl
      exact absurd low (by decide)
    · rintro rfl
      exact absurd high (by decide)
  · decide

/-- Every segment of the path of a checked pod may stand in a URL, and none of them ends early. -/
theorem podSegments_chars {ns name : String} (nsLabel : isLabel ns.toList = true)
    (subdomain : isSubdomain name.toList = true) :
    ∀ segment ∈ podSegments ns name, ∀ c ∈ segment.toList,
      isUrlChar c = true ∧ c ≠ '/' ∧ c ≠ '?' := by
  have fixed : ∀ segment ∈ ["api", "v1", "namespaces", "pods", "exec"], ∀ c ∈ segment.toList,
      isUrlChar c = true ∧ c ≠ '/' ∧ c ≠ '?' := by
    have listed : (["api", "v1", "namespaces", "pods", "exec"].all fun segment =>
        segment.toList.all fun c => isUrlChar c && c != '/' && c != '?') = true := by
      decide
    simpa only [List.all_eq_true, Bool.and_eq_true, bne_iff_ne, and_assoc] using listed
  intro segment member c within
  simp only [podSegments, List.mem_cons, List.not_mem_nil, or_false] at member
  rcases member with rfl | rfl | rfl | rfl | rfl | rfl | rfl
  case inr.inr.inr.inl => exact isUrlChar_of_isLabelChar (isLabelChar_of_isLabel nsLabel within)
  case inr.inr.inr.inr.inr.inl =>
    rcases isLabelChar_of_isSubdomain subdomain within with rfl | char
    · decide
    · exact isUrlChar_of_isLabelChar char
  all_goals exact fixed _ (by simp) c within

theorem isUrl_execUrl {ns name : String} (nsLabel : isLabel ns.toList = true)
    (subdomain : isSubdomain name.toList = true) (pairs : List (String × String)) :
    isUrl (execUrl (podsPath ns) name pairs).toList = true := by
  have plain : ∀ c ∈ (podPath ns name).toList, isUrlChar c = true := by
    rw [toList_podPath]
    intro c member
    rcases List.mem_flatMap.mp member with ⟨segment, listed, within⟩
    rcases List.mem_cons.mp within with rfl | within
    · decide
    · exact (podSegments_chars nsLabel subdomain segment listed c within).1
  rw [execUrl_podsPath, isUrl_append plain, isUrl_cons (by decide)]
  exact isUrl_query pairs

/-! ## The query -/

theorem words_injective {command command' : List String}
    (same : command.map (fun word => ("command", word)) =
      command'.map fun word => ("command", word)) : command = command' := by
  have values := congrArg (List.map Prod.snd) same
  simpa [List.map_map, Function.comp_def] using values

/-- The pairs of a query tell which streams it asks for, which container, and each word. -/
theorem pairs_injective {stdin stdin' : Bool} {container container' : Option String}
    {command command' : List String}
    (same : pairs stdin container command = pairs stdin' container' command') :
    stdin = stdin' ∧ container = container' ∧ command = command' := by
  have input : stdin = stdin' := by
    cases stdin <;> cases stdin' <;> first | rfl | simp [pairs] at same
  subst input
  unfold pairs at same
  simp only [List.append_assoc, List.append_cancel_left_eq] at same
  refine ⟨rfl, ?_⟩
  cases container with
  | none =>
      cases container' with
      | none => exact ⟨rfl, words_injective same⟩
      | some other => cases command <;> simp at same
  | some given =>
      cases container' with
      | none => cases command' <;> simp at same
      | some other =>
          rw [Option.toList_some, Option.toList_some, List.map_singleton, List.map_singleton,
            List.singleton_append, List.singleton_append, List.cons.injEq, Prod.mk.injEq] at same
          rw [same.1.2]
          exact ⟨rfl, words_injective same.2⟩

/-- None of the pairs asks for a terminal. -/
theorem name_of_mem_pairs {stdin : Bool} {container : Option String} {command : List String}
    {pair : String × String} (member : pair ∈ pairs stdin container command) :
    pair.1 ∈ ["stdin", "stdout", "stderr", "container", "command"] := by
  simp only [pairs, List.mem_append, List.mem_map] at member
  rcases member with ((input | streams) | ⟨_, _, rfl⟩) | ⟨_, _, rfl⟩
  · split at input
    · rw [List.mem_singleton.mp input]
      decide
    · cases input
  · simp only [List.mem_cons, List.not_mem_nil, or_false] at streams
    rcases streams with rfl | rfl <;> decide
  · simp
  · simp

/-! ## The request that has been built -/

/-- What a request is that has been built. -/
theorem of_build {target : Target} {command : List String} {stdin : Bool} {request : Request}
    (built : build target command stdin = .ok request) :
    ∃ name, target.validate = .ok name ∧ request =
      ⟨target.ns, name, target.container, command, stdin,
        execUrl (podsPath target.ns) name (pairs stdin target.container command)⟩ := by
  unfold build at built
  split at built
  · cases built
  · rename_i name passed
    split at built
    · cases built
    · split at built
      · cases built
      · rename_i collection known
        unfold collection? at known
        split at known
        · cases known
          dsimp only at built
          split at built
          · cases built
            exact ⟨name, passed, rfl⟩
          · cases built
        · cases known

/-- The path of the URL of a request: what stands before the first question mark. -/
def path (request : Request) : List Char := (Text.cut '?' request.url.toList).1

/-- The query of the URL: what stands after it. -/
def urlQuery (request : Request) : List Char := (Text.cut '?' request.url.toList).2.getD []

/-- What the URL of a request tells of the order that it was built from, and that it tells no more
than this. -/
structure Tells (request : Request) (target : Target) (command : List String) (stdin : Bool) :
    Prop where
  ascii : ∀ c ∈ request.url.toList, c.toNat < 0x80
  legal : isUrl request.url.toList = true
  /-- The path names the pod as the target does, and has no segment besides. -/
  path : ∃ name, target.name = some name ∧ String.ofList request.path = podPath target.ns name ∧
    Text.pieces '/' request.path = [] :: (podSegments target.ns name).map String.toList
  /-- Reading the query gives the streams, the container and the command, octet by octet. -/
  query : Text.FormEncoding.decodeQuery request.urlQuery =
    ((if stdin then [("stdin", "true")] else []) ++ [("stdout", "true"), ("stderr", "true")] ++
      (match target.container with
        | none => []
        | some container => [("container", container)]) ++
      command.map (fun word => ("command", word))).map Text.FormEncoding.octets
  noTerminal : ∀ pair ∈ Text.FormEncoding.decodeQuery request.urlQuery,
    pair.1 ≠ Text.Utf8.encode "tty".toList
  /-- No other order has the same URL. -/
  unique : ∀ target' command' stdin' request',
    build target' command' stdin' = .ok request' → request'.url = request.url →
    target'.ns = target.ns ∧ target'.name = target.name ∧ target'.container = target.container ∧
      stdin' = stdin ∧ command' = command

section

variable {target : Target} {command : List String} {stdin : Bool} {request : Request}

/-- Where the URL of a built request is cut: the path names the pod, and the query is what has been
written for the pairs. -/
theorem cut_url (built : build target command stdin = .ok request) :
    ∃ name, target.name = some name ∧ isLabel target.ns.toList = true ∧
      isSubdomain name.toList = true ∧ request.path = (podPath target.ns name).toList ∧
      request.urlQuery = Request.query (pairs stdin target.container command) ∧
      request.url.toList = request.path ++ '?' :: request.urlQuery := by
  rcases of_build built with ⟨name, passed, rfl⟩
  rcases Target.validate_eq_ok_iff.mp passed with ⟨nsLabel, _, named, subdomain, _⟩
  have absent : '?' ∉ (podPath target.ns name).toList := by
    rw [toList_podPath]
    intro member
    rcases List.mem_flatMap.mp member with ⟨segment, listed, within⟩
    rcases List.mem_cons.mp within with slash | within
    · cases slash
    · exact (podSegments_chars nsLabel subdomain segment listed '?' within).2.2 rfl
  have url := execUrl_podsPath target.ns name (pairs stdin target.container command)
  have split := Text.cut_append_cons absent (Request.query (pairs stdin target.container command))
  rw [← url] at split
  refine ⟨name, named, nsLabel, subdomain, ?_, ?_, ?_⟩
  · rw [path, split]
  · rw [urlQuery, split]
    rfl
  · rw [path, urlQuery, split]
    exact url

theorem decodeQuery_urlQuery (built : build target command stdin = .ok request) :
    Text.FormEncoding.decodeQuery request.urlQuery =
      (pairs stdin target.container command).map Text.FormEncoding.octets := by
  rcases cut_url built with ⟨_, _, _, _, _, written, _⟩
  rw [written]
  exact Text.FormEncoding.decodeQuery_written _

theorem pieces_path (built : build target command stdin = .ok request) :
    ∃ name, target.name = some name ∧ request.path = (podPath target.ns name).toList ∧
      Text.pieces '/' request.path = [] :: (podSegments target.ns name).map String.toList := by
  rcases cut_url built with ⟨name, named, nsLabel, subdomain, path, _, _⟩
  refine ⟨name, named, path, ?_⟩
  have free : ∀ segment ∈ podSegments target.ns name, '/' ∉ segment.toList :=
    fun segment listed within =>
      (podSegments_chars nsLabel subdomain segment listed '/' within).2.1 rfl
  rw [path, toList_podPath]
  exact Text.pieces_append_flatMap (List.not_mem_nil (a := '/')) String.toList _ free

theorem isUrl_url (built : build target command stdin = .ok request) :
    isUrl request.url.toList = true := by
  rcases of_build built with ⟨name, passed, rfl⟩
  rcases Target.validate_eq_ok_iff.mp passed with ⟨nsLabel, _, _, subdomain, _⟩
  exact isUrl_execUrl nsLabel subdomain _

/-- Requests with one URL are for one pod, one container, one command and the same streams. -/
theorem eq_of_url_eq {target' : Target} {command' : List String} {stdin' : Bool}
    {request' : Request} (built : build target command stdin = .ok request)
    (built' : build target' command' stdin' = .ok request') (same : request'.url = request.url) :
    target'.ns = target.ns ∧ target'.name = target.name ∧ target'.container = target.container ∧
      stdin' = stdin ∧ command' = command := by
  have samePath : request'.path = request.path := by rw [path, path, same]
  have sameQuery : request'.urlQuery = request.urlQuery := by rw [urlQuery, urlQuery, same]
  rcases pieces_path built with ⟨name, named, _, segments⟩
  rcases pieces_path built' with ⟨name', named', _, segments'⟩
  rw [samePath, segments, List.cons.injEq] at segments'
  have equal : podSegments target.ns name = podSegments target'.ns name' :=
    (List.map_inj_right fun _ _ => String.toList_inj.mp).mp segments'.2
  simp only [podSegments, List.cons.injEq, true_and, and_true] at equal
  have pairsEqual : pairs stdin' target'.container command' =
      pairs stdin target.container command := by
    refine (List.map_inj_right fun _ _ => Text.FormEncoding.octets_injective).mp ?_
    rw [← decodeQuery_urlQuery built, ← decodeQuery_urlQuery built', sameQuery]
  rcases pairs_injective pairsEqual with ⟨input, container, words⟩
  exact ⟨equal.1.symm, by rw [named, named', equal.2], container, input, words⟩

end

/-- The URL of every request that can be built tells what was ordered, exactly that, and in plain
characters. -/
theorem url_tells_order {target : Target} {command : List String} {stdin : Bool}
    {request : Request} (built : build target command stdin = .ok request) :
    request.Tells target command stdin where
  ascii := isAscii_of_isUrl (isUrl_url built)
  legal := isUrl_url built
  path := by
    rcases pieces_path built with ⟨name, named, path, segments⟩
    exact ⟨name, named, by rw [path, String.ofList_toList], segments⟩
  query := by
    rw [decodeQuery_urlQuery built, pairs]
    cases target.container <;> rfl
  noTerminal := by
    rw [decodeQuery_urlQuery built]
    intro pair member terminal
    rcases List.mem_map.mp member with ⟨given, listed, rfl⟩
    have name : given.1 = "tty" := Text.Utf8.encode_toList_injective terminal
    have other := name_of_mem_pairs listed
    rw [name] at other
    exact absurd other (by decide)
  unique := fun _ _ _ _ built' same => eq_of_url_eq built built' same

/-- A command whose words look like other parameters reaches the server as these words. -/
theorem hostile_words_told :
    ∃ request,
      build ⟨"default", "pods", some "web-0", some "app"⟩
        ["a&command=b", "", "100% +", "é\x00"] true = .ok request ∧
      request.Tells ⟨"default", "pods", some "web-0", some "app"⟩
        ["a&command=b", "", "100% +", "é\x00"] true := by
  have accepted : (build ⟨"default", "pods", some "web-0", some "app"⟩
      ["a&command=b", "", "100% +", "é\x00"] true).toOption.isSome = true := by
    decide +kernel
  cases built : build ⟨"default", "pods", some "web-0", some "app"⟩
      ["a&command=b", "", "100% +", "é\x00"] true with
  | ok request => exact ⟨request, rfl, url_tells_order built⟩
  | error refused =>
      rw [built] at accepted
      cases accepted

end Request
end PodCommand
