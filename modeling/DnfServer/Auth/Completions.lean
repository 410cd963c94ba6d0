import DnfServer.Auth.Accounts
import DnfServer.Library.Decimal
import DnfServer.Tcp.Packets

/-!
# The completions of the authentication server

A request is dispatched under the try block of its session, but its completion is not: it runs
later, alone, and an exception in it stops the io context of all sessions. All that a
completion can throw is the size check of the packet. It is met by every response without
strings and lists; the length of a character list, though, is decided by the database, which
bounds the characters of an account nowhere.
-/

namespace DnfServer.Auth

open Std DnfServer.Library DnfServer.Tcp
set_option autoImplicit false

/-- A completion that a service has been given, with what its result comes from. -/
inductive Completion where
  | login (requestId : UInt32) (authenticationResult : AccountAuthenticationResult)
      (state : AuthServerSessionState)
  | characterList (requestId : UInt32) (circumstances : Circumstances) (accountId : AccountId)
  | characterSelection (requestId : UInt32) (circumstances : Circumstances) (source : TicketSource)
      (accountId : AccountId) (playerId : PlayerId)

section

variable (encoding : AuthEncoding) (gameServerAddress : GameServerAddress) (database : Database)

/-- What the completion hands to the response handler, or the exception that leaves it. -/
def Completion.outcome : Completion → Except Failure (List UInt8)
  | .login requestId authenticationResult state =>
    (completeLogin encoding requestId authenticationResult state).1
  | .characterList requestId circumstances accountId =>
    completeCharacterList encoding requestId (loadCharacters circumstances accountId database)
  | .characterSelection requestId circumstances source accountId playerId =>
    completeCharacterSelection encoding gameServerAddress requestId
      (selectCharacter circumstances source accountId playerId database)

/-- No completion throws, so none stops the io context. -/
def Serves : Prop :=
  ∀ completion : Completion,
    (∃ response, completion.outcome encoding gameServerAddress database = .ok response) ∧
    ∀ ioContext : IoContext,
      ioContext.runHandler (completion.outcome encoding gameServerAddress database) = ioContext

/-- What is known of the library: the responses without strings and list entries are short. -/
structure ShortResponses : Prop where
  login : ∀ result : LoginResult, (encoding.loginResponse result).length ≤ maxPayloadSize
  characterList : ∀ result : ProtocolCharacterListResult,
    (encoding.characterListResponse result []).length ≤ maxPayloadSize
  characterSelection : ∀ result : ProtocolCharacterSelectionResult,
    (encoding.characterSelectionResponse ⟨result, "", 0, "", 0⟩).length ≤ maxPayloadSize

/-- The stored characters of each account fit a packet, and so does a ticket for the game
server when there is a character to select. -/
structure Fits : Prop where
  characters : ∀ accountId ∈ database.accounts,
    (encoding.characterListResponse .success (storedCharacters accountId database)).length ≤
      maxPayloadSize
  tickets : ∀ (playerId : PlayerId) (accountId : AccountId),
    database.accountPlayers[playerId]? = some accountId →
    ∀ (randomBytes : Vector UInt8 32) (expiresAtUnix : Int),
      0 < expiresAtUnix → expiresAtUnix ≤ 9223372036854775807 →
      (encoding.characterSelectionResponse ⟨.success, gameServerAddress.host, gameServerAddress.port,
        generateTicket randomBytes, expiresAtUnix⟩).length ≤ maxPayloadSize

end

/-! ## One response -/

theorem encodePacket_isOk {type : PacketType} {requestId : UInt32} {payload : List UInt8} :
    (∃ response, encodePacket type requestId payload = .ok response) ↔
      payload.length ≤ maxPayloadSize := by
  rcases encodePacket_cases type requestId payload with ⟨hfits, hok⟩ | ⟨hlong, herror⟩
  · exact ⟨fun _ => hfits, fun _ => ⟨_, hok⟩⟩
  · constructor
    · rintro ⟨response, hok⟩
      rw [herror] at hok
      cases hok
    · exact fun hfits => absurd hfits (Nat.not_le_of_lt hlong)

theorem serves_iff {encoding : AuthEncoding} {gameServerAddress : GameServerAddress}
    {database : Database} : Serves encoding gameServerAddress database ↔
      ∀ completion : Completion,
        ∃ response, completion.outcome encoding gameServerAddress database = .ok response := by
  constructor
  · exact fun h completion => (h completion).1
  · intro h completion
    obtain ⟨response, hok⟩ := h completion
    refine ⟨⟨response, hok⟩, ?_⟩
    intro ioContext
    rw [hok]
    rfl

theorem completeLogin_ok {encoding : AuthEncoding} (h : ShortResponses encoding) (requestId : UInt32)
    (authenticationResult : AccountAuthenticationResult) (state : AuthServerSessionState) :
    ∃ response, (completeLogin encoding requestId authenticationResult state).1 = .ok response := by
  have hshort : ∀ result : LoginResult,
      ∃ response, encodeLoginResponse encoding requestId result = .ok response :=
    fun result => encodePacket_isOk.mpr (h.login result)
  unfold completeLogin
  simp only
  split
  · split
    · exact hshort _
    · split
      · exact hshort _
      · exact hshort _
  · exact hshort _

theorem completeCharacterList_of_error {encoding : AuthEncoding} (h : ShortResponses encoding)
    {requestId : UInt32} {listResult : CharacterListResult} (hs : listResult.status ≠ .success) :
    ∃ response, completeCharacterList encoding requestId listResult = .ok response := by
  have hresult : toCharacterListResult listResult.status ≠ .success := by
    intro heq
    revert hs heq
    cases listResult.status <;> simp [toCharacterListResult]
  simp only [completeCharacterList, if_pos hresult]
  exact encodePacket_isOk.mpr (h.characterList _)

theorem completeCharacterList_of_success {encoding : AuthEncoding} {requestId : UInt32}
    {characters : List CharacterSummary} :
    (∃ response, completeCharacterList encoding requestId { status := .success, characters } =
      .ok response) ↔
      (encoding.characterListResponse .success characters).length ≤ maxPayloadSize :=
  encodePacket_isOk

/-! ### Selections -/

theorem generateTicket_nonempty (randomBytes : Vector UInt8 32) :
    (generateTicket randomBytes).isEmpty = false := by
  have hne : generateTicket randomBytes ≠ "" := by
    intro h
    have hlength := congrArg (·.toList.length) h
    simp [generateTicket, List.length_flatMap] at hlength
  simpa [String.isEmpty] using hne

/-- A ticket is only issued to the account of the player. -/
theorem selectCharacter_cases (circumstances : Circumstances) (source : TicketSource)
    (accountId : AccountId) (playerId : PlayerId) (database : Database) :
    (database.accountPlayers[playerId]? = some accountId ∧ ∃ expiresAtUnix : Int,
      expiresAtUnix ≤ 9223372036854775807 ∧
      selectCharacter circumstances source accountId playerId database =
        ⟨.success, some ⟨generateTicket source.randomBytes, expiresAtUnix⟩⟩) ∨
      (selectCharacter circumstances source accountId playerId database).status ≠ .success := by
  unfold selectCharacter
  split
  · exact Or.inr fun hs => by cases hs
  split
  · exact Or.inr fun hs => by cases hs
  split
  · exact Or.inr fun hs => by cases hs
  split
  · exact Or.inr fun hs => by cases hs
  · exact Or.inr fun hs => by cases hs
  · rename_i authTicket hissue
    refine Or.inl ?_
    unfold issue at hissue
    split at hissue
    · cases hissue
    rename_i howns
    split at hissue
    · cases hissue
    rename_i hoverflow
    split at hissue
    · cases hissue
    obtain rfl := Option.some.inj (Except.ok.inj hissue)
    simp only [not_or, not_not, Database.ownsPlayer, Bool.and_eq_true, decide_eq_true_eq] at howns
    exact ⟨howns.2.2.2, _, by omega, rfl⟩

/-- For the account of a player, every ticket and every expiry can be issued. -/
theorem selectCharacter_owned {database : Database} {accountId : AccountId} {playerId : PlayerId}
    (h : Sound database) (ho : database.accountPlayers[playerId]? = some accountId)
    (randomBytes : Vector UInt8 32) {expiresAtUnix : Int}
    (he : expiresAtUnix ≤ 9223372036854775807) :
    selectCharacter {} { randomBytes, nowUnix := expiresAtUnix - defaultAuthTicketLifetime }
        accountId playerId database =
      ⟨.success, some ⟨generateTicket randomBytes, expiresAtUnix⟩⟩ := by
  obtain ⟨hplayer, haccount⟩ := h.owners playerId accountId ho
  obtain ⟨row, hrow⟩ := exists_of_mem hplayer
  obtain ⟨accountRow, hAccountRow⟩ := exists_of_mem haccount
  have hstore := (h.players playerId row hrow).1
  have hstore' := (h.accounts accountId accountRow hAccountRow).1
  have hplayerId := ne_zero_of_canStoreId hstore
  have haccountId := ne_zero_of_canStoreId hstore'
  have howns : database.ownsPlayer accountId playerId = true := by
    simp [Database.ownsPlayer, hstore, hstore', ho]
  have hissue : issue { randomBytes, nowUnix := expiresAtUnix - defaultAuthTicketLifetime }
      accountId playerId database = .ok (some ⟨generateTicket randomBytes, expiresAtUnix⟩) := by
    rw [issue, if_neg (by simp [haccountId, hplayerId, howns]), if_neg (by simp only; omega),
      if_neg (by simp)]
    simp
  rw [selectCharacter, if_neg (by simp [haccountId, hplayerId]), if_neg (by simp), if_neg (by simp),
    hissue]

theorem completeCharacterSelection_of_error {encoding : AuthEncoding} (h : ShortResponses encoding)
    {gameServerAddress : GameServerAddress} {requestId : UInt32}
    {selectionResult : CharacterSelectionResult} (hs : selectionResult.status ≠ .success) :
    ∃ response, completeCharacterSelection encoding gameServerAddress requestId selectionResult =
      .ok response := by
  have hresult : toCharacterSelectionResult selectionResult.status ≠ .success := by
    intro heq
    revert hs heq
    cases selectionResult.status <;> simp [toCharacterSelectionResult]
  have hresponse (authTicket : Option IssuedAuthTicket) : characterSelectionResponse
      (toCharacterSelectionResult selectionResult.status) gameServerAddress authTicket =
      ⟨toCharacterSelectionResult selectionResult.status, "", 0, "", 0⟩ := by
    unfold characterSelectionResponse
    split
    · rename_i hsuccess
      exact absurd hsuccess hresult
    · rfl
  rw [completeCharacterSelection, if_neg (fun hsuccess => hresult hsuccess.1),
    encodeCharacterSelectionResponse, hresponse]
  exact encodePacket_isOk.mpr (h.characterSelection _)

theorem completeCharacterSelection_of_success {encoding : AuthEncoding} (h : ShortResponses encoding)
    {gameServerAddress : GameServerAddress} {requestId : UInt32} {randomBytes : Vector UInt8 32}
    {expiresAtUnix : Int} :
    (∃ response, completeCharacterSelection encoding gameServerAddress requestId
      ⟨.success, some ⟨generateTicket randomBytes, expiresAtUnix⟩⟩ = .ok response) ↔
      (0 < expiresAtUnix → (encoding.characterSelectionResponse ⟨.success, gameServerAddress.host,
        gameServerAddress.port, generateTicket randomBytes, expiresAtUnix⟩).length ≤
          maxPayloadSize) := by
  have hnonempty := generateTicket_nonempty randomBytes
  by_cases hexpires : 0 < expiresAtUnix
  · simp only [hexpires, true_imp_iff]
    rw [completeCharacterSelection, if_neg (by simp [hnonempty, hexpires])]
    exact encodePacket_isOk
  · simp only [hexpires, false_imp_iff, iff_true]
    rw [completeCharacterSelection,
      if_pos (by simpa [hnonempty, toCharacterSelectionResult] using hexpires)]
    exact encodePacket_isOk.mpr (h.characterSelection .serviceError)

/-! ## All completions -/

/-- For every content of the database that the operations reach: the completions return exactly
when the stored characters and the tickets fit. -/
theorem completions_return {ops : List DatabaseOp} {database : Database} {encoding : AuthEncoding}
    (gameServerAddress : GameServerAddress) (hr : run DatabaseOp.next {} ops = some database)
    (h : ShortResponses encoding) :
    Serves encoding gameServerAddress database ↔ Fits encoding gameServerAddress database := by
  have hsound := sound_of_run hr
  rw [serves_iff]
  constructor
  · intro hserves
    refine ⟨?_, ?_⟩
    · intro accountId ha
      have hlist := hserves (.characterList 0 {} accountId)
      simp only [Completion.outcome, loadCharacters_stored hsound ha] at hlist
      exact completeCharacterList_of_success.mp hlist
    · intro playerId accountId ho randomBytes expiresAtUnix hpos hmax
      have hselection := hserves (.characterSelection 0 {}
        { randomBytes, nowUnix := expiresAtUnix - defaultAuthTicketLifetime } accountId playerId)
      simp only [Completion.outcome, selectCharacter_owned hsound ho randomBytes hmax] at hselection
      exact (completeCharacterSelection_of_success h).mp hselection hpos
  · intro hfits completion
    cases completion with
    | login requestId authenticationResult state =>
      exact completeLogin_ok h requestId authenticationResult state
    | characterList requestId circumstances accountId =>
      simp only [Completion.outcome]
      rcases loadCharacters_cases hsound circumstances accountId with ⟨ha, heq⟩ | herror
      · rw [heq]
        exact completeCharacterList_of_success.mpr (hfits.characters accountId ha)
      · exact completeCharacterList_of_error h herror
    | characterSelection requestId circumstances source accountId playerId =>
      simp only [Completion.outcome]
      rcases selectCharacter_cases circumstances source accountId playerId database with
        ⟨ho, expiresAtUnix, hmax, heq⟩ | herror
      · rw [heq]
        refine (completeCharacterSelection_of_success h).mpr ?_
        exact fun hpos => hfits.tickets playerId accountId ho source.randomBytes expiresAtUnix hpos hmax
      · exact completeCharacterSelection_of_error h herror

theorem length_storedCharacters_le (accountId : AccountId) (database : Database) :
    (storedCharacters accountId database).length ≤ database.accountPlayers.size := by
  calc (storedCharacters accountId database).length
      ≤ (ownedPlayers accountId database).length := List.length_filterMap_le _ _
    _ ≤ database.accountPlayers.toList.length := by
      rw [ownedPlayers, List.length_map]
      exact List.length_filter_le _ _
    _ = database.accountPlayers.size := ExtTreeMap.length_toList

/-- Lengths that the library stays below: a response takes 64 bytes, 64 more for each character,
and its strings. -/
def roomyEncoding : AuthEncoding where
  loginResponse _ := List.replicate 64 0
  characterListResponse _ characters := List.replicate (64 + 64 * characters.length) 0
  characterSelectionResponse response :=
    List.replicate (64 + response.gameServerHost.utf8ByteSize + response.authTicket.length) 0

theorem shortResponses_roomyEncoding : ShortResponses roomyEncoding where
  login _ := by
    simp only [roomyEncoding, List.length_replicate]
    decide
  characterList _ := by
    simp only [roomyEncoding, List.length_replicate]
    decide
  characterSelection _ := by
    simp only [roomyEncoding, List.length_replicate]
    decide

/-- One account with one character. -/
def heroOps : List DatabaseOp := [.createAccount "alice" "scrypt", .createOwnedPlayer 1 "hero"]

theorem completions_return_hero :
    ∃ database : Database, run DatabaseOp.next {} heroOps = some database ∧
      ShortResponses roomyEncoding ∧ storedCharacters 1 database = [⟨1, "hero", 1⟩] ∧
      Serves roomyEncoding ⟨"127.0.0.1", 7777⟩ database := by
  obtain ⟨database, hr⟩ : ∃ database, run DatabaseOp.next {} heroOps = some database :=
    Option.isSome_iff_exists.mp rfl
  have hcharacters : storedCharacters 1 database = [⟨1, "hero", 1⟩] := by
    cases hr
    decide
  have hsize : database.accountPlayers.size = 1 := by
    cases hr
    decide
  refine ⟨database, hr, shortResponses_roomyEncoding, hcharacters,
    (completions_return _ hr shortResponses_roomyEncoding).mpr ⟨?_, ?_⟩⟩
  · intro accountId _
    have hle := length_storedCharacters_le accountId database
    have hmax : maxPayloadSize = 16376 := rfl
    simp only [roomyEncoding, List.length_replicate]
    omega
  · intro playerId accountId _ randomBytes expiresAtUnix _ _
    have hticket : (generateTicket randomBytes).length = 64 := by
      simp [generateTicket]
    have hhost : "127.0.0.1".utf8ByteSize = 9 := by decide
    have hmax : maxPayloadSize = 16376 := rfl
    simp only [roomyEncoding, List.length_replicate, hticket, hhost]
    omega

/-! ## An account with too many characters -/

/-- A name of fifteen letters that spells the index in binary. -/
def spelledName (index : Nat) : String :=
  .ofList ((List.range 15).map fun bit => if index.testBit bit then 'a' else 'b')

theorem validate_spelledName (index : Nat) :
    LoginValidator.validate (spelledName index) = .validPlayerName := by
  have hletters : ∀ letter ∈ (List.range 15).map fun bit => if index.testBit bit then 'a' else 'b',
      letter = 'a' ∨ letter = 'b' := by
    intro letter hl
    obtain ⟨bit, -, rfl⟩ := List.mem_map.mp hl
    split
    · exact Or.inl rfl
    · exact Or.inr rfl
  have hsize : (spelledName index).utf8ByteSize = 15 := by
    rw [spelledName, utf8ByteSize_ofList]
    · simp
    · intro letter hl
      rcases hletters letter hl with rfl | rfl <;> rfl
  have hallowed : (spelledName index).toList.all isAllowedCharacter = true := by
    rw [spelledName, String.toList_ofList, List.all_eq_true]
    intro letter hl
    rcases hletters letter hl with rfl | rfl <;> rfl
  have hempty : (spelledName index).isEmpty = false := by
    simp [String.isEmpty, hsize]
  simp [LoginValidator.validate, hempty, hsize, hallowed, maxPlayerNameLength]

theorem spelledName_injective {left right : Nat} (hl : left < 32768) (hr : right < 32768)
    (h : spelledName left = spelledName right) : left = right := by
  have hlist := congrArg String.toList h
  simp only [spelledName, String.toList_ofList] at hlist
  refine Nat.eq_of_testBit_eq ?_
  intro bit
  by_cases hbit : bit < 15
  · have hletter := List.map_inj_left.mp hlist bit (List.mem_range.mpr hbit)
    revert hletter
    cases left.testBit bit <;> cases right.testBit bit <;> decide
  · have hpow : 2 ^ 15 ≤ 2 ^ bit := Nat.pow_le_pow_right (by omega) (by omega)
    rw [Nat.testBit_lt_two_pow (by omega), Nat.testBit_lt_two_pow (by omega)]

/-- An account, and so many characters for it. -/
def crowdOps (count : Nat) : List DatabaseOp :=
  .createAccount "crowd" "scrypt" ::
    (List.range count).map fun index => .createOwnedPlayer 1 (spelledName index)

/-- The players `1` to `count` with the first names, all of the account `1`. -/
structure Crowded (count : Nat) (database : Database) : Prop where
  account : 1 ∈ database.accounts
  last : database.lastPlayerId = count
  names : ∀ (playerId : PlayerId) (row : PlayerRow), database.players[playerId]? = some row →
    ∃ index < count, row.name = spelledName index
  owned : ∀ playerId, 0 < playerId → playerId ≤ count → database.accountPlayers[playerId]? = some 1

theorem Crowded.createOwnedPlayer {count : Nat} {database : Database} (h : Crowded count database)
    (hc : count < 32768) :
    Crowded (count + 1) (database.createOwnedPlayer 1 (spelledName count)).2 := by
  have hinput : ¬ (¬ canStoreId 1 ∨
      LoginValidator.validate (spelledName count) ≠ .validPlayerName) := by
    simp only [not_or, not_not]
    exact ⟨by decide, validate_spelledName count⟩
  have hfresh : database.hasPlayerName (spelledName count) = false := by
    refine List.any_eq_false.mpr ?_
    intro row hrow hname
    obtain ⟨index, hi, hindex⟩ :=
      h.names row.1 row.2 (ExtTreeMap.mem_toList_iff_getElem?_eq_some.mp hrow)
    have hsame := (of_decide_eq_true hname).symm.trans hindex
    have := spelledName_injective hc (by omega) hsame
    omega
  have hnext : Database.nextRowId database.lastPlayerId = some (count + 1) := by
    rw [h.last, Database.nextRowId, if_pos]
    simp only [maxRowId]
    omega
  rw [Database.createOwnedPlayer, if_neg hinput, if_neg (not_not.mpr h.account), hfresh, hnext]
  refine ⟨h.account, rfl, ?_, ?_⟩
  · intro playerId row hr
    simp only [Bool.false_eq_true, if_false] at hr
    by_cases hid : playerId = count + 1
    · refine ⟨count, by omega, ?_⟩
      grind
    · obtain ⟨index, hi, hname⟩ := h.names playerId row (by grind)
      exact ⟨index, by omega, hname⟩
  · intro playerId hpos hle
    have hold := h.owned playerId hpos
    simp only [Bool.false_eq_true, if_false]
    grind

theorem crowded_of_run {count : Nat} (hc : count ≤ 32768) :
    ∃ database, run DatabaseOp.next {} (crowdOps count) = some database ∧ Crowded count database := by
  induction count with
  | zero =>
    refine ⟨_, rfl, ?_, rfl, ?_, fun _ hpos hle => absurd hle (Nat.not_le_of_lt hpos)⟩
    · exact ExtTreeMap.mem_insert_self
    · intro playerId row hr
      have hnone : (∅ : IdMap PlayerRow)[playerId]? = some row := hr
      simp at hnone
  | succ count ih =>
    obtain ⟨database, hr, hcrowded⟩ := ih (by omega)
    refine ⟨_, ?_, hcrowded.createOwnedPlayer (by omega)⟩
    have hops : crowdOps (count + 1) =
        crowdOps count ++ [.createOwnedPlayer 1 (spelledName count)] := by
      simp [crowdOps, List.range_succ]
    rw [hops]
    exact run_append.mpr ⟨database, hr, rfl⟩

theorem Crowded.length_storedCharacters {count : Nat} {database : Database}
    (h : Crowded count database) (hs : Sound database) :
    count ≤ (storedCharacters 1 database).length := by
  have hall : (storedCharacters 1 database).length = (ownedPlayers 1 database).length := by
    refine List.filterMap_length_eq_length.mpr ?_
    intro playerId hp
    have hplayer := (hs.owners playerId 1 (mem_ownedPlayers.mp hp)).1
    rw [Option.isSome_map]
    exact ExtTreeMap.mem_iff_isSome_getElem?.mp hplayer
  have hsubset : List.range' 1 count ⊆ ownedPlayers 1 database := by
    intro playerId hp
    obtain ⟨hpos, hlt⟩ := List.mem_range'_1.mp hp
    exact mem_ownedPlayers.mpr (h.owned playerId (by omega) (by omega))
  have hnodup : (List.range' 1 count).Nodup := List.nodup_range'
  have hle := hnodup.length_le_of_subset hsubset
  rw [List.length_range'] at hle
  omega

/-- The database takes an account with 16377 characters, and with at least one byte for each of
them the completion of its character list throws and stops the io context. -/
theorem crowd_stops_server :
    ∃ database : Database, run DatabaseOp.next {} (crowdOps 16377) = some database ∧
      ∀ (encoding : AuthEncoding) (gameServerAddress : GameServerAddress),
        (∀ (result : ProtocolCharacterListResult) (characters : List CharacterSummary),
          characters.length ≤ (encoding.characterListResponse result characters).length) →
        ∀ requestId : UInt32,
          let outcome := (Completion.characterList requestId {} 1).outcome encoding gameServerAddress
            database
          outcome = .error (.runtimeError "Packet is too large") ∧
            IoContext.runHandler outcome {} = { stopped := true } := by
  obtain ⟨database, hr, hcrowded⟩ := @crowded_of_run 16377 (by omega)
  have hsound := sound_of_run hr
  refine ⟨database, hr, ?_⟩
  intro encoding gameServerAddress hbytes requestId outcome
  have hlong : maxPayloadSize <
      (encoding.characterListResponse .success (storedCharacters 1 database)).length := by
    have hmax : maxPayloadSize = 16376 := rfl
    have hcount := hcrowded.length_storedCharacters hsound
    have := hbytes .success (storedCharacters 1 database)
    omega
  have houtcome : outcome = .error (.runtimeError "Packet is too large") := by
    simp only [outcome, Completion.outcome, loadCharacters_stored hsound hcrowded.account]
    rcases encodePacket_cases .authCharacterListResponse requestId
      (encoding.characterListResponse .success (storedCharacters 1 database)) with ⟨hfits, -⟩ | ⟨-, herror⟩
    · omega
    · exact herror
  rw [houtcome]
  exact ⟨rfl, rfl⟩

end DnfServer.Auth
