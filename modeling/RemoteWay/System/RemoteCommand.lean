import RemoteWay.Base.ShellQuotes
import RemoteWay.Client.Cli
import RemoteWay.Server.Cli

/-!
# The command line on the remote side

`ssh` joins the arguments after the host with single spaces, and a shell on
the remote side splits the result into the name of a program and its
arguments.  Nothing is quoted in between, so only words that mean nothing to
the shell reach the server.
-/

namespace RemoteWay.System

open RemoteWay.Base RemoteWay.Base.Shell RemoteWay.Base.Arguments
open RemoteWay.Server (CliOption CaptureBackendArg CompressArg)

variable {F : F64}

/-! ## Delivery -/

/-- What the server parsed is what the client was given. -/
structure SameOptions (cli : Client.Cli F) (server : Server.Cli F) :
    Prop where
  appId : server.appId = cli.appId
  capture : server.capture = cli.capture
  compress : server.compress = cli.compress
  captureFps : server.captureFps = cli.captureFps
  scale : server.scale = cli.serverScale
  command : server.command = cli.command

/-- Whatever the files and variables of the remote side are, the server is
the program that is run, and it parses the options of the client. -/
def DeliveredVerbatim (portal : Bool)
    (read : List (List Char) → Option (Matches CliOption))
    (cli : Client.Cli F) : Prop :=
  ∃ arguments server,
    simpleCommand (joined cli.remoteWords) =
      some (cli.serverBin :: arguments) ∧
    Server.Cli.parse F portal read arguments = some server ∧
    SameOptions cli server

/-- No word means anything to the shell or to the option parser of the
server, and the server knows the capture backend.  A scale that is not
forwarded is the default. -/
structure Unambiguous (portal : Bool) (cli : Client.Cli F) : Prop where
  serverBin : PlainCommand cli.serverBin
  appId : ∀ appId, cli.appId = some appId →
    Plain appId ∧ isFlag appId = false
  command : ∀ word, word ∈ cli.command → Plain word
  scale : if cli.forwardsScale then
      isFlag (F.toString cli.serverScale) = false
    else cli.serverScale = F.one
  capture : cli.capture = .portal → portal = true

/-! ## The words of the command line -/

namespace Words

def captured (cli : Client.Cli F) : List (CliOption × List Char) :=
  part .capture (if cli.capture = .auto then none
    else some (Client.captureAsServerArg cli.capture).toList)

def unscaled (cli : Client.Cli F) : List (CliOption × List Char) :=
  part .captureFps (some (u32ToString cli.captureFps)) ++
    part .compress (if cli.compress = .lz4 then none
      else some (Client.compressAsServerArg cli.compress).toList)

def scaled (cli : Client.Cli F) : List (CliOption × List Char) :=
  part .scale (if cli.forwardsScale then some (F.toString cli.serverScale)
    else none)

def beforeScale (cli : Client.Cli F) : List (CliOption × List Char) :=
  captured cli ++ part .appId cli.appId ++ unscaled cli

/-- The options that the client gives to the server. -/
def given (cli : Client.Cli F) : List (CliOption × List Char) :=
  beforeScale cli ++ scaled cli

def words (cli : Client.Cli F) : List (List Char) :=
  Arguments.words CliOption.name (given cli) ++ trailing cli.command

variable (cli : Client.Cli F)

theorem trailing_eq (command : List (List Char)) :
    trailing command =
      if command ≠ [] then "--".toList :: command else [] := by
  by_cases empty : command = [] <;> simp [trailing, escape, empty]

theorem words_scaled :
    Arguments.words CliOption.name (scaled cli) =
      if cli.forwardsScale then
        ["--scale".toList, F.toString cli.serverScale]
      else [] := by
  by_cases forwarded : cli.forwardsScale = true <;>
    simp [scaled, forwarded, words_part, CliOption.name,
      CliOption.long]

theorem remoteWords_eq :
    cli.remoteWords = cli.serverBin :: words cli := by
  have same : cli.sshCommand =
      ("ssh".toList :: cli.sshOpt ++ [cli.host]) ++
        (cli.serverBin :: words cli) := by
    simp only [words, given, beforeScale, captured, unscaled, words_append,
      words_part_ite, words_scaled, trailing_eq]
    rw [Client.Cli.sshCommand]
    cases picked : cli.appId <;>
      simp only [words_part, List.append_assoc, List.cons_append,
        List.nil_append, ne_eq] <;>
      rfl
  rw [Client.Cli.remoteWords, same]
  exact List.drop_left' (by simp)

/-! ### What the words are made of -/

theorem plain_name (option : CliOption) : Plain option.name := by
  cases option <;> decide +kernel

theorem plain_escape : Plain escape := by decide +kernel

theorem plain_captureAsServerArg (capture : CaptureBackendArg) :
    Plain (Client.captureAsServerArg capture).toList := by
  cases capture <;> decide +kernel

theorem plain_compressAsServerArg (compress : CompressArg) :
    Plain (Client.compressAsServerArg compress).toList := by
  cases compress <;> decide +kernel

theorem plain_u32ToString (n : UInt32) : Plain (u32ToString n) :=
  plain_of_characters (decimal_ne_nil n.toNat) fun c member => by
    left
    simp [Char.isAlphanum, isDigit_of_mem_decimal member]

theorem plain_toString (lawful : F.Lawful) (x : F.Value) :
    Plain (F.toString x) :=
  plain_of_characters (lawful.toString_ne_nil x) (lawful.toString_characters x)

theorem isFlag_captureAsServerArg (capture : CaptureBackendArg) :
    isFlag (Client.captureAsServerArg capture).toList = false := by
  cases capture <;> decide

theorem isFlag_compressAsServerArg (compress : CompressArg) :
    isFlag (Client.compressAsServerArg compress).toList = false := by
  cases compress <;> decide

theorem isFlag_u32ToString (n : UInt32) :
    isFlag (u32ToString n) = false := by
  cases digits : decimal n.toNat with
  | nil => exact absurd digits (decimal_ne_nil n.toNat)
  | cons c rest =>
      have notHyphen : c ≠ '-' :=
        ne_of_isAlphanum (by simp [Char.isAlphanum, decimal_head digits])
          (by decide)
      simp [isFlag, u32ToString, digits, notHyphen]

section Values

variable {holds : List Char → Prop}

theorem forall_captured
    (capture : holds (Client.captureAsServerArg cli.capture).toList) :
    ∀ value, value ∈ (captured cli).map Prod.snd → holds value := by
  apply forall_part
  intro value same
  split_ifs at same
  rw [← Option.some.inj same]
  exact capture

theorem forall_unscaled (captureFps : holds (u32ToString cli.captureFps))
    (compress : holds (Client.compressAsServerArg cli.compress).toList) :
    ∀ value, value ∈ (unscaled cli).map Prod.snd → holds value := by
  intro value member
  rw [unscaled, List.map_append, List.mem_append] at member
  rcases member with first | second
  · refine forall_part ?_ value first
    intro value same
    rw [← Option.some.inj same]
    exact captureFps
  · refine forall_part ?_ value second
    intro value same
    split_ifs at same
    rw [← Option.some.inj same]
    exact compress

theorem forall_scaled
    (scale : cli.forwardsScale = true → holds (F.toString cli.serverScale)) :
    ∀ value, value ∈ (scaled cli).map Prod.snd → holds value := by
  apply forall_part
  intro value same
  split_ifs at same with forwarded
  rw [← Option.some.inj same]
  exact scale forwarded

end Values

theorem plain_captured : ∀ word,
    word ∈ Arguments.words CliOption.name (captured cli) → Plain word :=
  forall_words plain_name
    (forall_captured cli (plain_captureAsServerArg cli.capture))

theorem plain_unscaled : ∀ word,
    word ∈ Arguments.words CliOption.name (unscaled cli) → Plain word :=
  forall_words plain_name
    (forall_unscaled cli (plain_u32ToString cli.captureFps)
      (plain_compressAsServerArg cli.compress))

theorem plain_scaled (lawful : F.Lawful) : ∀ word,
    word ∈ Arguments.words CliOption.name (scaled cli) → Plain word :=
  forall_words plain_name
    (forall_scaled cli fun _ => plain_toString lawful cli.serverScale)

/-- Only the window and the command can contain quotations. -/
theorem quotesOf_words (lawful : F.Lawful) :
    quotesOf (words cli) =
      (cli.appId.map quotes).getD 0 + quotesOf cli.command := by
  have window : quotesOf
      (Arguments.words CliOption.name (part .appId cli.appId)) =
        (cli.appId.map quotes).getD 0 := by
    cases cli.appId with
    | none => rfl
    | some appId =>
        simp [words_part, quotes_of_ordinary (plain_name .appId).ordinary]
  have command : quotesOf (trailing cli.command) = quotesOf cli.command := by
    rw [trailing]
    split_ifs with empty
    · rw [empty]
    · rw [quotesOf_cons, quotes_of_ordinary plain_escape.ordinary,
        Nat.zero_add]
  simp only [words, given, beforeScale, words_append, quotesOf_append, window,
    command, quotesOf_of_plain (plain_captured cli),
    quotesOf_of_plain (plain_unscaled cli),
    quotesOf_of_plain (plain_scaled cli lawful)]
  omega

/-! ### What the parser makes of the options -/

theorem distinct_given : ((given cli).map Prod.fst).Nodup := by
  have order : List.Sublist ((given cli).map Prod.fst)
      ([.capture] ++ [.appId] ++ ([.captureFps] ++ [.compress]) ++
        [CliOption.scale]) := by
    simp only [given, beforeScale, captured, unscaled, scaled,
      List.map_append]
    exact ((((options_part _ _).append (options_part _ _)).append
      ((options_part _ _).append (options_part _ _))).append
        (options_part _ _))
  exact order.nodup (by decide)

theorem captureFromStr_captureAsServerArg {portal : Bool}
    {capture : CaptureBackendArg}
    (known : capture = .portal → portal = true) :
    Server.captureFromStr portal
      (Client.captureAsServerArg capture).toList = some capture := by
  cases capture with
  | auto => rfl
  | wlrScreencopy => rfl
  | extImageCapture => rfl
  | portal =>
      rw [known rfl]
      rfl

theorem compressFromStr_compressAsServerArg (compress : CompressArg) :
    Server.compressFromStr
      (Client.compressAsServerArg compress).toList = some compress := by
  cases compress <;> rfl

theorem captureFromStr_portal :
    Server.captureFromStr false
      (Client.captureAsServerArg .portal).toList = none := rfl

/-- The result of the parser, if it knows the capture backend. -/
def expected (capture : CaptureBackendArg) : Server.Cli F where
  capture := capture
  compress := cli.compress
  output := none
  appId := cli.appId
  command := cli.command
  captureFps := cli.captureFps
  scale := if cli.forwardsScale then cli.serverScale else F.one
  downscaleFilter := .box

section Lookup

variable (command : List (List Char))

theorem lookup_given (option : CliOption) :
    (given cli).lookup option =
      match option with
      | .capture => if cli.capture = .auto then none
          else some (Client.captureAsServerArg cli.capture).toList
      | .compress => if cli.compress = .lz4 then none
          else some (Client.compressAsServerArg cli.compress).toList
      | .output => none
      | .appId => cli.appId
      | .captureFps => some (u32ToString cli.captureFps)
      | .scale => if cli.forwardsScale then some (F.toString cli.serverScale)
          else none
      | .downscaleFilter => none := by
  simp only [given, beforeScale, captured, unscaled, scaled,
    List.lookup_append, lookup_part]
  cases option <;> simp

theorem value_capture :
    Server.Cli.value ⟨given cli, command⟩ .capture "auto" =
      (Client.captureAsServerArg cli.capture).toList := by
  rw [Server.Cli.value, lookup_given]
  by_cases auto : cli.capture = .auto
  · simp [auto, Client.captureAsServerArg]
  · simp [auto]

theorem value_compress :
    Server.Cli.value ⟨given cli, command⟩ .compress "lz4" =
      (Client.compressAsServerArg cli.compress).toList := by
  rw [Server.Cli.value, lookup_given]
  by_cases lz4 : cli.compress = .lz4
  · simp [lz4, Client.compressAsServerArg]
  · simp [lz4]

theorem value_captureFps :
    Server.Cli.value ⟨given cli, command⟩ .captureFps "100" =
      u32ToString cli.captureFps := by
  rw [Server.Cli.value, lookup_given, Option.getD_some]

theorem value_scale :
    Server.Cli.value ⟨given cli, command⟩ .scale "1.0" =
      if cli.forwardsScale then F.toString cli.serverScale
      else "1.0".toList := by
  rw [Server.Cli.value, lookup_given]
  by_cases forwarded : cli.forwardsScale = true
  · simp [forwarded]
  · simp [forwarded]

theorem value_downscaleFilter :
    Server.Cli.value ⟨given cli, command⟩ .downscaleFilter "box" =
      "box".toList := by
  rw [Server.Cli.value, lookup_given, Option.getD_none]

theorem fromStr_scale (lawful : F.Lawful) :
    F.fromStr (if cli.forwardsScale then F.toString cli.serverScale
        else "1.0".toList) =
      some (if cli.forwardsScale then cli.serverScale else F.one) := by
  split_ifs
  · exact lawful.fromStr_toString cli.serverScale
  · exact lawful.fromStr_one

end Lookup

theorem fromMatches_given (lawful : F.Lawful) (portal : Bool) :
    Server.Cli.fromMatches F portal ⟨given cli, cli.command⟩ =
      (Server.captureFromStr portal
        (Client.captureAsServerArg cli.capture).toList).map (expected cli) := by
  have box : Server.downscaleFilterFromStr "box".toList = some .box := rfl
  simp only [Server.Cli.fromMatches, lookup_given, value_capture,
    value_compress, value_captureFps, value_scale, value_downscaleFilter,
    compressFromStr_compressAsServerArg, u32FromStr_u32ToString,
    fromStr_scale cli lawful, box]
  cases Server.captureFromStr portal
    (Client.captureAsServerArg cli.capture).toList with
  | none => simp
  | some capture => simp [expected]

/-! ### All words -/

section All

variable {cli}

theorem forall_words {holds : List Char → Prop} (lawful : F.Lawful)
    (ofPlain : ∀ word, Plain word → holds word)
    (appId : ∀ appId, cli.appId = some appId → holds appId)
    (command : ∀ word, word ∈ cli.command → holds word) :
    ∀ word, word ∈ words cli → holds word := by
  intro word member
  simp only [words, given, beforeScale, words_append, List.mem_append]
    at member
  rcases member with (((capture | window) | unscaled) | scaled) | trailing
  · exact ofPlain word (plain_captured cli word capture)
  · exact Arguments.forall_words (fun option => ofPlain _ (plain_name option))
      (forall_part appId) word window
  · exact ofPlain word (plain_unscaled cli word unscaled)
  · exact ofPlain word (plain_scaled cli lawful word scaled)
  · exact forall_trailing (ofPlain _ plain_escape) command word trailing

theorem values_captured : ∀ value,
    value ∈ (captured cli).map Prod.snd → isFlag value = false :=
  forall_captured cli (isFlag_captureAsServerArg cli.capture)

theorem values_beforeScale
    (appId : ∀ appId, cli.appId = some appId → isFlag appId = false) :
    ∀ value, value ∈ (beforeScale cli).map Prod.snd →
      isFlag value = false := by
  intro value member
  simp only [beforeScale, List.map_append, List.mem_append] at member
  rcases member with (capture | window) | unscaled
  · exact values_captured value capture
  · exact forall_part appId value window
  · exact @forall_unscaled F cli (isFlag · = false)
      (isFlag_u32ToString cli.captureFps)
      (isFlag_compressAsServerArg cli.compress) value unscaled

theorem values_given
    (appId : ∀ appId, cli.appId = some appId → isFlag appId = false)
    (scale : cli.forwardsScale = true →
      isFlag (F.toString cli.serverScale) = false) :
    ∀ value, value ∈ (given cli).map Prod.snd → isFlag value = false := by
  intro value member
  rw [given, List.map_append, List.mem_append] at member
  rcases member with before | scaled
  · exact values_beforeScale appId value before
  · exact @forall_scaled F cli (isFlag · = false) scale value scaled

end All

end Words

/-! ## What is delivered -/

section Delivery

variable {portal : Bool} {cli : Client.Cli F}
variable {read : List (List Char) → Option (Matches CliOption)}

theorem Unambiguous.delivered (unambiguous : Unambiguous portal cli)
    (lawful : F.Lawful) (reads : Reads CliOption.name read) :
    DeliveredVerbatim portal read cli := by
  have scale := unambiguous.scale
  have plain : ∀ word, word ∈ Words.words cli → Plain word :=
    Words.forall_words lawful (fun _ plain => plain)
      (fun appId same => (unambiguous.appId appId same).1) unambiguous.command
  have values := @Words.values_given F cli
    (fun appId same => (unambiguous.appId appId same).2)
    (fun forwarded => by rwa [if_pos forwarded] at scale)
  refine ⟨Words.words cli, Words.expected cli cli.capture, ?_, ?_, ?_⟩
  · rw [Words.remoteWords_eq]
    exact simpleCommand_joined unambiguous.serverBin plain
  · rw [Server.Cli.parse, Words.words,
      reads.options _ cli.command (Words.distinct_given cli) values,
      Option.bind_some, Words.fromMatches_given cli lawful,
      Words.captureFromStr_captureAsServerArg unambiguous.capture]
    rfl
  · refine ⟨rfl, rfl, rfl, rfl, ?_, rfl⟩
    change (if cli.forwardsScale then cli.serverScale else F.one) = _
    split_ifs at scale ⊢
    · rfl
    · exact scale.symm

/-- The window and the command are taken from the arguments. -/
theorem fromMatches_cases {result : Matches CliOption}
    {server : Server.Cli F}
    (matched : Server.Cli.fromMatches F portal result = some server) :
    server.appId = result.given.lookup .appId ∧
      server.command = result.command := by
  simp only [Server.Cli.fromMatches, Option.bind_eq_bind] at matched
  split_ifs at matched with both
  · cases matched
  · simp only [Option.bind_eq_some_iff, Option.some.injEq] at matched
    obtain ⟨_, _, _, _, _, _, _, _, _, _, rfl⟩ := matched
    exact ⟨rfl, rfl⟩

/-- The server received at least the quotations of the client. -/
theorem quotesOf_received (lawful : F.Lawful)
    (reads : Reads CliOption.name read) {arguments : List (List Char)}
    {result : Matches CliOption} (done : read arguments = some result)
    (window : result.given.lookup .appId = cli.appId)
    (command : result.command = cli.command) :
    quotesOf (Words.words cli) ≤ quotesOf arguments := by
  rw [Words.quotesOf_words cli lawful, ← command]
  cases picked : cli.appId with
  | none =>
      rw [Option.map_none, Option.getD_none, Nat.zero_add]
      exact (reads.command_sublist done).countP_le
  | some appId =>
      rw [picked] at window
      obtain ⟨before, after, same, _⟩ := List.lookup_eq_some_iff.mp window
      have member := same ▸ List.mem_append_right before List.mem_cons_self
      rw [Option.map_some, Option.getD_some, quotesOf, ← quotes_append]
      exact (reads.value_command_sublist done member).countP_le

/-- A window that the server received, between words that are plain. -/
theorem appId_of_visible (reads : Reads CliOption.name read)
    {arguments : List (List Char)} {result : Matches CliOption}
    (done : read arguments = some result)
    (plain : ∀ word, word ∈ arguments → Plain word)
    (seen : arguments = visible (Words.words cli)) {appId : List Char}
    (picked : cli.appId = some appId) :
    Plain appId ∧ isFlag appId = false := by
  obtain ⟨rest, same⟩ : ∃ rest, Words.words cli =
      Arguments.words CliOption.name (Words.captured cli) ++
        CliOption.appId.name :: appId :: CliOption.captureFps.name ::
          rest := by
    refine ⟨u32ToString cli.captureFps ::
      (Arguments.words CliOption.name (part .compress
          (if cli.compress = .lz4 then none
          else some (Client.compressAsServerArg cli.compress).toList)) ++
        (Arguments.words CliOption.name (Words.scaled cli) ++
          trailing cli.command)), ?_⟩
    simp only [Words.words, Words.given, Words.beforeScale, Words.unscaled,
      words_append, picked, List.append_assoc]
    rfl
  have name := Words.plain_name .appId
  have next := Words.plain_name .captureFps
  rw [same, visible_append (Words.plain_captured cli),
    visible_cons _ name.nonempty name.noComment] at seen
  by_cases empty : appId = []
  · -- the next option takes the place of the value
    rw [empty, visible_cons_nil,
      visible_cons _ next.nonempty next.noComment] at seen
    rw [seen, reads.flagValue _ .appId _ _ Words.values_captured (by decide)]
      at done
    cases done
  · by_cases comment : appId.head? = some '#'
    · rw [visible_cons_comment _ comment] at seen
      rw [seen, reads.missingValue _ .appId Words.values_captured] at done
      cases done
    · rw [visible_cons _ empty comment] at seen
      refine ⟨plain appId (seen ▸ by simp), ?_⟩
      by_contra flag
      rw [Bool.not_eq_false] at flag
      rw [seen, reads.flagValue _ .appId _ _ Words.values_captured flag]
        at done
      cases done

/-- A scale that the server received. -/
theorem scale_of_words (reads : Reads CliOption.name read)
    {result : Matches CliOption}
    (done : read (Words.words cli) = some result)
    (appId : ∀ appId, cli.appId = some appId → isFlag appId = false)
    (forwarded : cli.forwardsScale = true) :
    isFlag (F.toString cli.serverScale) = false := by
  by_contra flag
  rw [Bool.not_eq_false] at flag
  have same : Words.words cli =
      Arguments.words CliOption.name (Words.beforeScale cli) ++
        CliOption.scale.name :: F.toString cli.serverScale ::
          trailing cli.command := by
    rw [Words.words, Words.given, words_append, Words.scaled,
      if_pos forwarded, words_part, List.append_assoc]
    rfl
  rw [same, reads.flagValue _ .scale _ _ (Words.values_beforeScale appId) flag]
    at done
  cases done

theorem unambiguous_of_delivered (lawful : F.Lawful)
    (reads : Reads CliOption.name read)
    (delivered : DeliveredVerbatim portal read cli) :
    Unambiguous portal cli := by
  obtain ⟨arguments, server, run, parsed, same⟩ := delivered
  rw [Server.Cli.parse, Option.bind_eq_some_iff] at parsed
  obtain ⟨result, done, matched⟩ := parsed
  obtain ⟨window, command⟩ := fromMatches_cases matched
  rw [same.appId] at window
  rw [same.command] at command
  rw [Words.remoteWords_eq] at run
  have noQuotes : quotes (joined (cli.serverBin :: Words.words cli)) = 0 := by
    apply quotes_eq_zero_of_simpleCommand run
    rw [quotes_joined, quotesOf_cons, quotesOf_cons]
    exact Nat.add_le_add_left
      (quotesOf_received lawful reads done window.symm command.symm) _
  have plain := plain_of_simpleCommand noQuotes run
  have serverBin := plainCommand_of_simpleCommand noQuotes run
  have plainArguments : ∀ word, word ∈ arguments → Plain word :=
    fun word member => plain word (List.mem_cons_of_mem _ member)
  have commandPlain : ∀ word, word ∈ cli.command → Plain word := by
    intro word member
    rw [command] at member
    exact plainArguments word (reads.command_subset done member)
  -- a window may be a part of an argument, but has no special characters
  have ordinary : ∀ word, word ∈ Words.words cli → ∀ c, c ∈ word →
      isOrdinary c = true := by
    refine Words.forall_words lawful (fun word plain => plain.ordinary) ?_
      fun word member => (commandPlain word member).ordinary
    intro appId picked c member
    rw [picked] at window
    obtain ⟨before, after, given, _⟩ :=
      List.lookup_eq_some_iff.mp window.symm
    obtain ⟨argument, here, suffix⟩ := reads.value_suffix done
      (given ▸ List.mem_append_right before List.mem_cons_self)
    exact (plainArguments argument here).ordinary c (suffix.subset member)
  have seen := arguments_of_simpleCommand serverBin ordinary run
  have picks : ∀ appId, cli.appId = some appId →
      Plain appId ∧ isFlag appId = false := fun appId picked =>
    appId_of_visible reads done plainArguments seen picked
  have flagless : ∀ appId, cli.appId = some appId → isFlag appId = false :=
    fun appId picked => (picks appId picked).2
  rw [visible_of_plain (Words.forall_words lawful (fun _ plain => plain)
    (fun appId picked => (picks appId picked).1) commandPlain)] at seen
  subst seen
  have scale := scale_of_words reads done flagless
  rw [Words.words, reads.options _ cli.command (Words.distinct_given cli)
    (Words.values_given flagless scale)] at done
  obtain rfl := Option.some.inj done
  rw [Words.fromMatches_given cli lawful, Option.map_eq_some_iff] at matched
  obtain ⟨capture, known, rfl⟩ := matched
  refine ⟨serverBin, picks, commandPlain, ?_, ?_⟩
  · have received := same.scale
    change (if cli.forwardsScale then cli.serverScale else F.one) = _
      at received
    split_ifs at received ⊢ with forwarded
    · exact scale forwarded
    · exact received.symm
  · intro isPortal
    by_contra unknown
    rw [Bool.not_eq_true] at unknown
    rw [isPortal, unknown, Words.captureFromStr_portal] at known
    cases known

/-- The command line is delivered exactly if no word in it is special. -/
theorem deliveredVerbatim_iff_unambiguous (lawful : F.Lawful)
    (reads : Reads CliOption.name read) :
    DeliveredVerbatim portal read cli ↔ Unambiguous portal cli := by
  constructor
  · exact unambiguous_of_delivered lawful reads
  · intro unambiguous
    exact unambiguous.delivered lawful reads

end Delivery

/-! ### Examples -/

/-- A window at half of its size. -/
def headlessFirefox : Client.Cli halves where
  host := "user@host".toList
  capture := .extImageCapture
  compress := .zstd
  serverScale := (1 : Int)
  appId := some "org.mozilla.firefox".toList
  captureFps := 60
  serverBin := "/usr/bin/remoteway-server".toList
  sshOpt := ["-p 2222".toList]
  command := ["firefox".toList, "--headless".toList]

theorem deliveredVerbatim_headlessFirefox :
    DeliveredVerbatim false (readArguments CliOption.ofName)
      headlessFirefox :=
  (deliveredVerbatim_iff_unambiguous halves_lawful
    (reads_readArguments CliOption.names)).mpr
    { serverBin := ⟨by decide +kernel, by decide +kernel, by decide +kernel⟩
      appId := by
        intro appId picked
        obtain rfl := Option.some.inj picked
        exact ⟨by decide +kernel, by decide⟩
      command := by decide +kernel
      scale := by
        have forwarded : headlessFirefox.forwardsScale = true := by decide
        rw [if_pos forwarded]
        decide +kernel
      capture := by decide }

/-- The command has one argument, with a space in it. -/
def spacedArgument : Client.Cli halves where
  host := "host".toList
  capture := .auto
  compress := .lz4
  serverScale := (2 : Int)
  appId := none
  captureFps := 100
  serverBin := "remoteway-server".toList
  sshOpt := []
  command := ["echo".toList, "a b".toList]

/-- The server starts the command with two arguments. -/
theorem not_deliveredVerbatim_spacedArgument :
    ¬ DeliveredVerbatim false (readArguments CliOption.ofName)
      spacedArgument := by
  rintro ⟨arguments, server, run, parsed, same⟩
  have words : simpleCommand (joined spacedArgument.remoteWords) =
      some (spacedArgument.serverBin ::
        ["--capture-fps".toList, "100".toList, "--".toList, "echo".toList,
          "a".toList, "b".toList]) := by decide +kernel
  obtain rfl := (List.cons.inj (Option.some.inj (words.symm.trans run))).2
  have command := congrArg (Option.map Server.Cli.command) parsed
  rw [Option.map_some, same.command] at command
  revert command
  decide +kernel

end RemoteWay.System
