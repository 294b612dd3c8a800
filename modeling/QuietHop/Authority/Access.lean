import QuietHop.Authority.Accounts
import QuietHop.Lib.Ledger

namespace QuietHop
namespace Authority

open Lib Lib.Threads Net

/-!
# Who reaches a protected handler

`Login` opens a session in the database and signs a token.  `Authenticate` asks for both on every
request: the token is checked against the server's clock, the session against the database's, and
the two only have to name the same subscriber.  `Logout` deletes the session; a token cannot be
taken back.

Requests run at the same time, the database may lose any statement or its answer, and an operator
may rewrite the table of subscribers at any time.  What has happened is kept in a record, with the
login that did it, and a handler is reached only for reasons that the record holds.  Of the token
library it is assumed that nobody else can sign: the signature of a text is found right only where
the claims in it have been signed.
-/

/-! ## Tokens -/

/-- The claims of a token that are set or checked.  The subject of the registered claims is shadowed by the field of
that name. -/
structure Claims where
  sub : String
  role : String
  tier : String
  issuedAt : Option Int
  expiresAt : Option Int
  notBefore : Option Int
  deriving DecidableEq

/-- Eight hours in nanoseconds, for tokens and for sessions. -/
def sessionTtl : Int := 8 * 3600 * 1000000000

/-- `jwt.NewNumericDate`: a date in whole seconds. -/
def numericDate (time : Int) : Int := time - time % 1000000000

theorem numericDate_le (time : Int) : numericDate time ≤ time := by
  rw [numericDate]
  omega

inductive JwtError where
  | malformed
  | invalidMethod
  | invalidSignature
  | expirationRequired
  | expired
  | notValidYet
  deriving DecidableEq

/-- The token library with the manager's secret: `SignedString`; what `ParseUnverified` reads from a text, its method
and its claims; and whether `Verify` finds the signature of a text right. -/
structure JwtLibrary where
  signedString : Claims -> Except String String
  parseUnverified : String -> Except JwtError (String × Claims)
  verify : String -> Bool

/-- The claims `GenerateToken` signs. -/
def claimsFor (subscriber : Subscriber) (tier : String) (now : Int) : Claims where
  sub := subscriber.id
  role := subscriber.role
  tier := tier
  issuedAt := some (numericDate now)
  expiresAt := some (numericDate (now + sessionTtl))
  notBefore := none

/-- `ValidateToken`: the method, the signature, and then the two dates. -/
def validateToken (jwt : JwtLibrary) (text : String) (now : Int) : Except JwtError Claims :=
  match jwt.parseUnverified text with
  | .error e => .error e
  | .ok (method, claims) =>
      if method ≠ "HS256" then .error .invalidMethod
      else if jwt.verify text = false then .error .invalidSignature
      else
        match claims.expiresAt with
        | none => .error .expirationRequired
        | some expires =>
            if ¬ now < expires then .error .expired
            else if claims.notBefore.any (now < ·) then .error .notValidYet
            else .ok claims

/-- A token that is found valid is signed right and has not expired. -/
theorem validateToken_ok {jwt : JwtLibrary} {text : String} {now : Int} {claims : Claims}
    (valid : validateToken jwt text now = .ok claims) :
    jwt.parseUnverified text = .ok ("HS256", claims) ∧ jwt.verify text = true ∧
      ∃ expires, claims.expiresAt = some expires ∧ now < expires := by
  rw [validateToken] at valid
  split at valid
  · cases valid
  next method found read =>
  split at valid
  · cases valid
  next foreign =>
  split at valid
  · cases valid
  next unsigned =>
  split at valid
  · cases valid
  next expires dated =>
  split_ifs at valid with past early
  cases valid
  rw [Decidable.not_not.mp foreign] at read
  exact ⟨read, eq_true_of_ne_false unsigned, expires, dated, past⟩

/-! ## Sessions and requests -/

/-- A row of `sessions`. -/
structure SessionRow where
  id : Uuid
  subscriberId : String
  expiresAt : Int

/-- The handlers behind `Authenticate`. -/
inductive Route where
  | logout
  | issueToken
  | listTokens
  | getAccount
  | getUsage
  | provisionRelay
  | listRelays
  | listSubscribers
  | approveSubscriber
  deriving DecidableEq

/-- Whether the route is behind `RequireRole("admin")` as well. -/
def Route.adminOnly : Route -> Bool
  | provisionRelay | listRelays | listSubscribers | approveSubscriber => true
  | _ => false

/-- A handler is reached: by whom, on which session, and when its token and its session were checked. -/
structure Visit where
  route : Route
  session : Uuid
  subscriber : String
  role : String
  tokenAt : Int
  sessionAt : Int

/-- What the record keeps.  Logins are known by their numbers. -/
inductive Deed where
  /-- A login has read a row for an email. -/
  | found (login : Nat) (email : String) (subscriber : Subscriber)
  /-- A login has found the password it was sent right for the row it has read. -/
  | verified (login : Nat) (sent : Credentials) (subscriber : Subscriber)
  /-- A login has inserted a session for the owner of a row, at this time of the database. -/
  | opened (login : Nat) (owner : Subscriber) (session : Uuid) (time : Int)
  | closed (session : Uuid)
  | signed (login : Nat) (holder : Subscriber) (claims : Claims) (time : Int)
  /-- A request has brought the text of a token. -/
  | brought (text : String)
  | reached (visit : Visit)

structure Access where
  auth : AuthServer
  /-- The rows of `subscribers` by their email. -/
  subscribers : List (String × Subscriber)
  sessions : List SessionRow
  deeds : List Deed

namespace Access

def note (deed : Deed) (db : Access) : Access := { db with deeds := db.deeds ++ [deed] }

def selectSubscriber (email : String) (db : Access) : Except SqlError Subscriber :=
  match db.subscribers.lookup email with
  | none => .error .noRows
  | some subscriber => .ok subscriber

def createSession (login : Nat) (owner : Subscriber) (id : Uuid) (now : Int) (db : Access) :
    Except SqlError (String × Access) :=
  if id ∈ db.sessions.map SessionRow.id then .error (.server "23505")
  else if owner.id ∉ db.subscribers.map (·.2.id) then .error (.server "23503")
  else .ok (id.text, note (.opened login owner id now)
    { db with sessions := db.sessions ++ [⟨id, owner.id, now + sessionTtl⟩] })

def getSession (readUuid : String -> Option Uuid) (text : String) (now : Int) (db : Access) : Except SqlError SessionRow :=
  match readUuid text with
  | none => .error (.server "22P02")
  | some id =>
      match db.sessions.find? fun row => row.id = id ∧ row.expiresAt > now with
      | none => .error .noRows
      | some row => .ok row

def deleteSession (readUuid : String -> Option Uuid) (text : String) (db : Access) : Except SqlError (Unit × Access) :=
  match readUuid text with
  | none => .error (.server "22P02")
  | some id => .ok ((), note (.closed id) { db with sessions := db.sessions.filter (·.id ≠ id) })

def cleanExpiredSessions (now : Int) (db : Access) : Except SqlError (Nat × Access) :=
  .ok ((db.sessions.filter (·.expiresAt < now)).length,
    { db with sessions := db.sessions.filter fun row => ¬ row.expiresAt < now })

/-- Somebody else writes the table of subscribers.  The sessions of a row that goes are deleted with it. -/
def rewriteSubscribers (rows : List (String × Subscriber)) (db : Access) : Access :=
  { db with subscribers := rows, sessions := db.sessions.filter fun row => row.subscriberId ∈ rows.map (·.2.id) }

end Access

structure Request where
  authorization : String
  jwtCookie : Option String
  sessionCookie : Option String
  route : Route

/-- The bearer token, or else the cookie's. -/
def Request.tokenStr (request : Request) : Option String :=
  if "Bearer ".toList <+: request.authorization.toList then some (String.ofList (request.authorization.toList.drop 7))
  else request.jwtCookie.filter (· ≠ "")

inductive RequestPhase where
  | arriving
  /-- The token was found valid at this time. -/
  | validated (claims : Claims) (time : Int)
  | handling (subscriber role : String)
  | replied (status : Nat) (text : String)

inductive AccessJob where
  | login (number : Nat) (login : Login)
  | request (request : Request) (phase : RequestPhase)
  | cleanup
  | operator

/-- What a step meets: the clocks of the server and of the database, the body of a login, the tier of a subscriber, the
fate of a statement, the UUID it draws, and what an operator writes. -/
structure AccessTurn where
  now : Int
  dbNow : Int
  decoded : Except String Credentials
  tier : Except String String
  delivery : Delivery SqlError
  draw : Uuid
  rows : List (String × Subscriber)

/-- The parts of the server that are not its own. -/
structure AccessServices where
  passwords : Passwords
  jwt : JwtLibrary
  readUuid : String -> Option Uuid

section Steps

variable (services : AccessServices)

def reported {Value : Type} (result : Except SqlError Value) : Except String Value :=
  result.mapError fun _ => "database"

/-- The answers a step of `Login` gets, and what it leaves behind. -/
def loginAnswers (db : Access) (number : Nat) (phase : LoginPhase) (turn : AccessTurn) : Turn × Access :=
  let silent : Turn := ⟨turn.now, turn.decoded, .error "", turn.tier, .error "", .error ""⟩
  match phase with
  | .selecting req =>
      match ask (Access.selectSubscriber req.email) turn.delivery db with
      | .error _ => (silent, db)
      | .ok subscriber => ({ silent with row := .ok subscriber }, db.note (.found number req.email subscriber))
  | .verifying req subscriber =>
      match services.passwords.verifyPassword req.password subscriber.hash with
      | .ok true => (silent, db.note (.verified number req subscriber))
      | _ => (silent, db)
  | .creating subscriber _ =>
      let (session, db) := execute (Access.createSession number subscriber turn.draw turn.dbNow) turn.delivery db
      ({ silent with session := reported session }, db)
  | .signing subscriber tier _ =>
      let claims := claimsFor subscriber tier turn.now
      match services.jwt.signedString claims with
      | .error e => ({ silent with token := .error e }, db)
      | .ok text => ({ silent with token := .ok text }, db.note (.signed number subscriber claims turn.now))
  | _ => (silent, db)

/-- `Authenticate` up to the session, and then with the role and the handler. -/
def requestStep (db : Access) (request : Request) (phase : RequestPhase) (turn : AccessTurn) : Access × RequestPhase :=
  let unauthorized := (db, RequestPhase.replied 401 "unauthorized")
  match phase with
  | .arriving =>
      match request.tokenStr with
      | none => unauthorized
      | some text =>
          match validateToken services.jwt text turn.now with
          | .error _ => (db.note (.brought text), .replied 401 "unauthorized")
          | .ok claims => (db.note (.brought text), .validated claims turn.now)
  | .validated claims time =>
      match request.sessionCookie with
      | none => unauthorized
      | some cookie =>
          match ask (Access.getSession services.readUuid cookie turn.dbNow) turn.delivery db with
          | .error _ => unauthorized
          | .ok session =>
              if session.subscriberId ≠ claims.sub then unauthorized
              else if request.route.adminOnly ∧ claims.role ≠ "admin" then (db, .replied 403 "forbidden")
              else (db.note (.reached ⟨request.route, session.id, session.subscriberId, claims.role, time, turn.dbNow⟩),
                .handling session.subscriberId claims.role)
  | .handling subscriber role =>
      match request.route, request.sessionCookie with
      | .logout, some cookie =>
          match execute (Access.deleteSession services.readUuid cookie) turn.delivery db with
          | (.error _, db) => (db, .replied 500 "internal")
          | (.ok (), db) => (db, .replied 204 "")
      | .logout, none => (db, .replied 204 "")
      -- The other handlers are modelled with the tables they work on.
      | _, _ => (db, .handling subscriber role)
  | .replied status text => (db, .replied status text)

def accessStep (db : Access) (job : AccessJob) (turn : AccessTurn) : Access × AccessJob :=
  match job with
  | .login number login =>
      let answers := loginAnswers services db number login.phase turn
      let after := loginStep services.passwords db.auth login answers.1
      ({ answers.2 with auth := after.1 }, .login number after.2)
  | .request request phase =>
      let after := requestStep services db request phase turn
      (after.1, .request request after.2)
  | .cleanup => ((execute (Access.cleanExpiredSessions turn.dbNow) turn.delivery db).2, .cleanup)
  | .operator => (db.rewriteSubscribers turn.rows, .operator)

end Steps

/-- What may begin at any time. -/
inductive Arrival where
  | login (ip : String)
  | request (request : Request)
  | cleanup
  | operator

def Arrival.job (number : Nat) : Arrival -> AccessJob
  | .login ip => .login number ⟨ip, .checking, none⟩
  | .request sent => .request sent .arriving
  | .cleanup => .cleanup
  | .operator => .operator

/-- A move with its place in the run, which numbers what begins with it. -/
def Arrival.begins : Move Arrival AccessTurn × Nat -> Move AccessJob AccessTurn
  | (.spawn arrival, number) => .spawn (arrival.job number)
  | (.advance index turn, _) => .advance index turn

/-- The server after some moves, from an empty table of sessions. -/
def accesses (services : AccessServices) (auth : AuthServer) (rows : List (String × Subscriber))
    (moves : List (Move Arrival AccessTurn)) : Pool Access AccessJob :=
  run (accessStep services) ⟨⟨auth, rows, [], []⟩, []⟩ (moves.zipIdx.map Arrival.begins)

/-! ## Reasons -/

section Reasons

variable {services : AccessServices}

/-- A login has found the password it was sent right for the row that it had read under the email it was sent. -/
def LoggedIn (passwords : Passwords) (deeds : List Deed) (login : Nat) (subscriber : Subscriber) : Prop :=
  ∃ sent, .found login sent.email subscriber ∈ deeds ∧ .verified login sent subscriber ∈ deeds ∧
    passwords.verifyPassword sent.password subscriber.hash = .ok true

/-- A login opened a session, after it had found its password right, and nobody has closed the session since. -/
def OpenSince (passwords : Passwords) (deeds : List Deed) (session : Uuid) (owner : Subscriber) (time : Int) : Prop :=
  ∃ login before after, deeds = before ++ .opened login owner session time :: after ∧
    LoggedIn passwords before login owner ∧ .closed session ∉ after

/-- A login signed some claims, after it had found its password right. -/
def SignedBy (passwords : Passwords) (deeds : List Deed) (holder : Subscriber) (claims : Claims) (time : Int) : Prop :=
  ∃ login before after, deeds = before ++ .signed login holder claims time :: after ∧
    LoggedIn passwords before login holder

/-- Why a handler may be reached. -/
structure Backed (services : AccessServices) (deeds : List Deed) (visit : Visit) : Prop where
  /-- A login of the subscriber opened the session less than eight hours before, and it has not been closed. -/
  session : ∃ owner time, OpenSince services.passwords deeds visit.session owner time ∧
    owner.id = visit.subscriber ∧ visit.sessionAt < time + sessionTtl
  /-- A token was brought and found valid, and a login of the subscriber signed it with the role of its row less than
  eight hours before. -/
  token : ∃ text claims holder time, .brought text ∈ deeds ∧
    validateToken services.jwt text visit.tokenAt = .ok claims ∧ SignedBy services.passwords deeds holder claims time ∧
    holder.id = visit.subscriber ∧ holder.role = visit.role ∧ visit.tokenAt < time + sessionTtl
  admin : visit.route.adminOnly = true -> visit.role = "admin"

/-- An entry that is no forgery: claims are found signed right only where a login has signed them. -/
def Genuine (jwt : JwtLibrary) (deeds : List Deed) : Deed -> Prop
  | .brought text => forall claims, jwt.parseUnverified text = .ok ("HS256", claims) -> jwt.verify text = true ->
      ∃ login holder time, .signed login holder claims time ∈ deeds
  | _ => True

/-- Nobody but the server can sign with its secret. -/
def Unforged (jwt : JwtLibrary) (deeds : List Deed) : Prop := Ledger (Genuine jwt) deeds

/-- Why a handler is reached, for all that the server itself knows of tokens. -/
structure Admitted (services : AccessServices) (deeds : List Deed) (visit : Visit) : Prop where
  session : ∃ owner time, OpenSince services.passwords deeds visit.session owner time ∧
    owner.id = visit.subscriber ∧ visit.sessionAt < time + sessionTtl
  token : ∃ text claims, .brought text ∈ deeds ∧ validateToken services.jwt text visit.tokenAt = .ok claims ∧
    claims.sub = visit.subscriber ∧ claims.role = visit.role
  admin : visit.route.adminOnly = true -> visit.role = "admin"

/-- What justifies an entry. -/
def justifies (services : AccessServices) (deeds : List Deed) : Deed -> Prop
  | .opened login owner _ _ => LoggedIn services.passwords deeds login owner
  | .signed login holder claims time => LoggedIn services.passwords deeds login holder ∧
      ∃ tier, claims = claimsFor holder tier time
  | .reached visit => Admitted services deeds visit
  | _ => True

theorem LoggedIn.append {passwords : Passwords} {deeds : List Deed} {login : Nat} {subscriber : Subscriber}
    (loggedIn : LoggedIn passwords deeds login subscriber) (more : List Deed) :
    LoggedIn passwords (deeds ++ more) login subscriber := by
  rcases loggedIn with ⟨sent, found, verified, right⟩
  exact ⟨sent, List.mem_append_left _ found, List.mem_append_left _ verified, right⟩

theorem OpenSince.append {passwords : Passwords} {deeds more : List Deed} {session : Uuid} {owner : Subscriber}
    {time : Int} (unclosed : OpenSince passwords deeds session owner time) (kept : .closed session ∉ more) :
    OpenSince passwords (deeds ++ more) session owner time := by
  rcases unclosed with ⟨login, before, after, rfl, loggedIn, none⟩
  refine ⟨login, before, after ++ more, by simp, loggedIn, ?_⟩
  rw [List.mem_append]
  exact fun member => member.elim none kept

/-- The record is in order, and every session in the table is open in it. -/
structure Kept (services : AccessServices) (db : Access) : Prop where
  ledger : Ledger (justifies services) db.deeds
  sessions : ∀ row ∈ db.sessions, ∃ owner time, OpenSince services.passwords db.deeds row.id owner time ∧
    owner.id = row.subscriberId ∧ row.expiresAt = time + sessionTtl

/-- What a job may rely on. -/
def Relies (services : AccessServices) (db : Access) : AccessJob -> Prop
  | .login number ⟨_, .verifying req subscriber, _⟩ => .found number req.email subscriber ∈ db.deeds
  | .login number ⟨_, .tiering subscriber, _⟩ => LoggedIn services.passwords db.deeds number subscriber
  | .login number ⟨_, .creating subscriber _, _⟩ => LoggedIn services.passwords db.deeds number subscriber
  | .login number ⟨_, .signing subscriber _ _, _⟩ => LoggedIn services.passwords db.deeds number subscriber
  | .request _ (.validated claims time) => ∃ text, .brought text ∈ db.deeds ∧
      validateToken services.jwt text time = .ok claims
  | _ => True

theorem Relies.grow {db after : Access} {job : AccessJob} (relies : Relies services db job)
    (grown : db.deeds <+: after.deeds) : Relies services after job := by
  rcases grown with ⟨more, grown⟩
  have loggedIn {number : Nat} {subscriber : Subscriber}
      (before : LoggedIn services.passwords db.deeds number subscriber) :
      LoggedIn services.passwords after.deeds number subscriber := grown ▸ before.append more
  have member {deed : Deed} (before : deed ∈ db.deeds) : deed ∈ after.deeds := grown ▸ List.mem_append_left more before
  cases job with
  | login number login =>
      rcases login with ⟨ip, phase, failedAt⟩
      cases phase with
      | verifying req subscriber => exact member relies
      | tiering subscriber => exact loggedIn relies
      | creating subscriber tier => exact loggedIn relies
      | signing subscriber tier session => exact loggedIn relies
      | _ => trivial
  | request request phase =>
      cases phase with
      | validated claims time =>
          rcases relies with ⟨text, brought, valid⟩
          exact ⟨text, member brought, valid⟩
      | _ => trivial
  | cleanup => trivial
  | operator => trivial

/-! ## Statements keep the record -/

variable {db after : Access}

/-- An entry that closes nothing. -/
theorem Kept.note (kept : Kept services db) {deed : Deed} (reason : justifies services db.deeds deed)
    (closes : forall session, deed ≠ .closed session) : Kept services (db.note deed) where
  ledger := .note kept.ledger reason
  sessions := by
    intro row member
    rcases kept.sessions row member with ⟨owner, time, unclosed, rest⟩
    refine ⟨owner, time, unclosed.append ?_, rest⟩
    rw [List.mem_singleton]
    exact (closes row.id).symm

theorem Kept.auth (kept : Kept services db) (auth : AuthServer) : Kept services { db with auth := auth } :=
  ⟨kept.ledger, kept.sessions⟩

/-- Sessions may go at any time. -/
theorem Kept.drop (kept : Kept services db) (keep : SessionRow -> Bool) (rows : List (String × Subscriber)) :
    Kept services { db with subscribers := rows, sessions := db.sessions.filter keep } :=
  ⟨kept.ledger, fun row member => kept.sessions row (List.mem_of_mem_filter member)⟩

theorem kept_createSession (kept : Kept services db) {number : Nat} {owner : Subscriber}
    (loggedIn : LoggedIn services.passwords db.deeds number owner) {id : Uuid} {now : Int} {text : String}
    (created : db.createSession number owner id now = .ok (text, after)) :
    Kept services after ∧ db.deeds <+: after.deeds := by
  rw [Access.createSession] at created
  split_ifs at created
  cases created
  have noted := @Kept.note services db kept (.opened number owner id now) loggedIn (by rintro _ ⟨⟩)
  refine ⟨⟨noted.ledger, ?_⟩, List.prefix_append _ _⟩
  intro row member
  rcases List.mem_append.mp member with old | new
  · exact noted.sessions row old
  · rw [List.mem_singleton.mp new]
    exact ⟨owner, now, ⟨number, db.deeds, [], rfl, loggedIn, List.not_mem_nil⟩, rfl, rfl⟩

theorem kept_deleteSession (kept : Kept services db) {text : String} {value : Unit}
    (deleted : db.deleteSession services.readUuid text = .ok (value, after)) :
    Kept services after ∧ db.deeds <+: after.deeds := by
  rw [Access.deleteSession] at deleted
  split at deleted
  · cases deleted
  next id _ =>
  cases deleted
  refine ⟨⟨.note kept.ledger trivial, ?_⟩, List.prefix_append _ _⟩
  intro row member
  rcases List.mem_filter.mp member with ⟨old, other⟩
  rcases kept.sessions row old with ⟨owner, time, unclosed, rest⟩
  refine ⟨owner, time, unclosed.append ?_, rest⟩
  intro closed
  cases List.mem_singleton.mp closed
  simp at other

/-- What is lost on the way or back does no harm. -/
theorem kept_execute {Value : Type} (kept : Kept services db) {statement : Access -> Except SqlError (Value × Access)}
    (keeps : forall value after, statement db = .ok (value, after) -> Kept services after ∧ db.deeds <+: after.deeds)
    (delivery : Delivery SqlError) :
    Kept services (execute statement delivery db).2 ∧ db.deeds <+: (execute statement delivery db).2.deeds := by
  rcases execute_cases statement delivery db with
    ⟨value, after, executed, done⟩ | ⟨e, executed⟩ | ⟨e, value, after, executed, -, done⟩
  · rw [executed]
    exact keeps value after done
  · rw [executed]
    exact ⟨kept, List.prefix_refl _⟩
  · rw [executed]
    exact keeps value after done

/-! ## Steps keep the record -/

/-- What one step of a job leaves behind. -/
structure Goes (services : AccessServices) (db : Access) (result : Access × AccessJob) : Prop where
  kept : Kept services result.1
  grown : db.deeds <+: result.1.deeds
  relies : Relies services result.1 result.2

theorem goes_login (kept : Kept services db) {number : Nat} {login : Login}
    (relies : Relies services db (.login number login)) (turn : AccessTurn) :
    Goes services db (accessStep services db (.login number login) turn) := by
  have same : db.deeds <+: db.deeds := List.prefix_refl _
  rcases login with ⟨ip, phase, failedAt⟩
  cases phase with
  | checking =>
      simp only [accessStep, loginAnswers, loginStep]
      split <;> exact ⟨kept.auth _, same, trivial⟩
  | decoding =>
      simp only [accessStep, loginAnswers, loginStep]
      split <;> exact ⟨kept.auth _, same, trivial⟩
  | selecting req =>
      simp only [accessStep, loginAnswers]
      split
      · exact ⟨kept.auth _, same, trivial⟩
      next subscriber _ =>
        have noted := @Kept.note services db kept (.found number req.email subscriber) trivial (by rintro _ ⟨⟩)
        exact ⟨noted.auth _, List.prefix_append _ _, List.mem_concat_self⟩
  | equalizing req => exact ⟨kept.auth _, same, trivial⟩
  | verifying req subscriber =>
      have noted := @Kept.note services db kept (.verified number req subscriber) trivial (by rintro _ ⟨⟩)
      simp only [accessStep, loginAnswers, loginStep]
      cases answer : services.passwords.verifyPassword req.password subscriber.hash with
      | error reason => exact ⟨kept.auth _, same, trivial⟩
      | ok right =>
          cases right with
          | false => exact ⟨kept.auth _, same, trivial⟩
          | true =>
              exact ⟨noted.auth _, List.prefix_append _ _, req, List.mem_append_left _ relies,
                List.mem_concat_self, answer⟩
  | recording => exact ⟨kept.auth _, same, trivial⟩
  | tiering subscriber =>
      simp only [accessStep, loginAnswers, loginStep]
      split <;> exact ⟨kept.auth _, same, relies⟩
  | creating subscriber tier =>
      have executed := @kept_execute services db _ kept (Access.createSession number subscriber turn.draw turn.dbNow)
        (fun _ _ created => kept_createSession kept relies created) turn.delivery
      simp only [accessStep, loginAnswers, loginStep]
      generalize execute (Access.createSession number subscriber turn.draw turn.dbNow) turn.delivery db = result
        at executed
      rcases result with ⟨session, after⟩
      rcases executed with ⟨after_kept, grown⟩
      rcases session with e | text
      · exact ⟨after_kept.auth _, grown, trivial⟩
      · exact ⟨after_kept.auth _, grown, Relies.grow relies grown⟩
  | signing subscriber tier session =>
      simp only [accessStep, loginAnswers]
      split
      · exact ⟨kept.auth _, same, trivial⟩
      next text signed =>
        have noted := @Kept.note services db kept
          (.signed number subscriber (claimsFor subscriber tier turn.now) turn.now) ⟨relies, tier, rfl⟩ (by rintro _ ⟨⟩)
        exact ⟨noted.auth _, List.prefix_append _ _, trivial⟩
  | done response => exact ⟨kept.auth _, same, trivial⟩

/-- A session that is found is in the table and has not expired. -/
theorem getSession_ok {readUuid : String -> Option Uuid} {text : String} {now : Int} {row : SessionRow}
    (found : db.getSession readUuid text now = .ok row) : row ∈ db.sessions ∧ now < row.expiresAt := by
  rw [Access.getSession] at found
  split at found
  · cases found
  split at found
  · cases found
  next held =>
  cases found
  have meets := List.find?_some held
  simp only [decide_eq_true_eq] at meets
  exact ⟨List.mem_of_find?_eq_some held, meets.2⟩

theorem goes_request (kept : Kept services db) {request : Request} {phase : RequestPhase}
    (relies : Relies services db (.request request phase)) (turn : AccessTurn) :
    Goes services db (accessStep services db (.request request phase) turn) := by
  have refused (status : Nat) (text : String) : Goes services db (db, .request request (.replied status text)) :=
    ⟨kept, List.prefix_refl _, trivial⟩
  cases phase with
  | arriving =>
      simp only [accessStep, requestStep]
      split
      · exact refused 401 _
      next text _ =>
      have noted := @Kept.note services db kept (.brought text) trivial (by rintro _ ⟨⟩)
      split
      · exact ⟨noted, List.prefix_append _ _, trivial⟩
      next valid =>
        exact ⟨noted, List.prefix_append _ _, text, List.mem_concat_self, valid⟩
  | validated claims time =>
      simp only [accessStep, requestStep]
      split
      · exact refused 401 _
      split
      · exact refused 401 _
      next session found =>
      split_ifs with stranger forbidden
      · exact refused 401 _
      · exact refused 403 _
      rcases getSession_ok (ask_ok found) with ⟨member, current⟩
      rcases kept.sessions session member with ⟨owner, openedAt, unclosed, mine, until_⟩
      rcases relies with ⟨text, brought, valid⟩
      have admitted : Admitted services db.deeds
          ⟨request.route, session.id, session.subscriberId, claims.role, time, turn.dbNow⟩ := by
        refine ⟨⟨owner, openedAt, unclosed, mine, until_ ▸ current⟩, ?_, ?_⟩
        · exact ⟨text, claims, brought, valid, (Decidable.not_not.mp stranger).symm, rfl⟩
        · intro needed
          by_contra other
          exact forbidden ⟨needed, other⟩
      exact ⟨kept.note admitted (by rintro _ ⟨⟩), List.prefix_append _ _, trivial⟩
  | handling subscriber role =>
      have deleted (cookie : String) := @kept_execute services db _ kept (Access.deleteSession services.readUuid cookie)
        (fun _ _ done => @kept_deleteSession services db _ kept cookie _ done) turn.delivery
      simp only [accessStep, requestStep]
      split
      · next cookie _ _ =>
          have executed := deleted cookie
          split
          · next result =>
              rw [result] at executed
              exact ⟨executed.1, executed.2, trivial⟩
          · next result =>
              rw [result] at executed
              exact ⟨executed.1, executed.2, trivial⟩
      · exact refused 204 _
      · exact ⟨kept, List.prefix_refl _, trivial⟩
  | replied status text => exact refused status text

theorem goes_step (kept : Kept services db) {job : AccessJob} (relies : Relies services db job) (turn : AccessTurn) :
    Goes services db (accessStep services db job turn) := by
  cases job with
  | login number login => exact goes_login kept relies turn
  | request request phase => exact goes_request kept relies turn
  | cleanup =>
      have cleaned := @kept_execute services db _ kept (Access.cleanExpiredSessions turn.dbNow) (fun _ _ done => by
        cases done
        exact ⟨kept.drop _ _, List.prefix_refl _⟩) turn.delivery
      exact ⟨cleaned.1, cleaned.2, trivial⟩
  | operator => exact ⟨kept.drop _ _, List.prefix_refl _, trivial⟩

theorem access_guarantee (services : AccessServices) : Guarantee (accessStep services) (Kept services) (Relies services) where
  keeps := fun _ _ turn kept relies => ⟨(goes_step kept relies turn).kept, (goes_step kept relies turn).relies⟩
  stable := fun _ _ turn _ kept relies other => other.grow (goes_step kept relies turn).grown

/-- A token that is found valid and is no forgery was signed by a login of the subscriber. -/
theorem signedBy_of_brought {before after : List Deed} {visit : Visit}
    (ledger : Ledger (justifies services) (before ++ .reached visit :: after)) (unforged : Unforged services.jwt before)
    {text : String} {claims : Claims} (brought : .brought text ∈ before)
    (valid : validateToken services.jwt text visit.tokenAt = .ok claims) :
    ∃ holder time, SignedBy services.passwords before holder claims time ∧ claims.sub = holder.id ∧
      claims.role = holder.role ∧ visit.tokenAt < time + sessionTtl := by
  rcases validateToken_ok valid with ⟨read, right, expires, dated, unexpired⟩
  rcases List.append_of_mem brought with ⟨early, late, split⟩
  rcases Ledger.reason unforged split claims read right with ⟨login, holder, time, signed⟩
  have inside : .signed login holder claims time ∈ before := split ▸ List.mem_append_left _ signed
  rcases List.append_of_mem inside with ⟨first, rest, signedAt⟩
  rcases ledger.reason (show before ++ .reached visit :: after = first ++ .signed login holder claims time ::
    (rest ++ .reached visit :: after) by rw [signedAt]; simp) with ⟨loggedIn, tier, rfl⟩
  refine ⟨holder, time, ⟨login, first, rest, signedAt, loggedIn⟩, rfl, rfl, ?_⟩
  cases dated
  exact unexpired.trans_le (numericDate_le _)

end Reasons

/-- Whatever logins, requests, logouts, cleanups and rewritten tables interleave, with statements lost and clocks that
need not agree, as long as no token is forged: a protected handler is reached only on a session that a login of that
subscriber opened less than eight hours before and nobody has logged out of since, with a token that a login of that
subscriber signed less than eight hours before, and with the role its row then held.  Each of the two logins had found
the password it was sent right for the row of the subscriber.  An administrator's handler takes the role `admin`. -/
theorem protected_handler_backed (services : AccessServices) (auth : AuthServer) (rows : List (String × Subscriber))
    (moves : List (Move Arrival AccessTurn)) (before after : List Deed) (visit : Visit)
    (reached : (accesses services auth rows moves).shared.deeds = before ++ .reached visit :: after)
    (unforged : Unforged services.jwt before) : Backed services before visit := by
  have begun : Sound (Kept services) (Relies services) (⟨⟨auth, rows, [], []⟩, []⟩ : Pool Access AccessJob) :=
    ⟨⟨.nil, fun _ member => absurd member List.not_mem_nil⟩, fun _ member => absurd member List.not_mem_nil⟩
  have starts : Obeys (accessStep services) (Starts (Relies services)) ⟨⟨auth, rows, [], []⟩, []⟩
      (moves.zipIdx.map Arrival.begins) := by
    apply obeys_of_forall
    intro pool next member
    rcases List.mem_map.mp member with ⟨⟨move, number⟩, -, rfl⟩
    cases move with
    | advance index turn => trivial
    | spawn arrival => cases arrival <;> trivial
  have ledger := (run_sound (access_guarantee services) begun starts).1.ledger
  have admitted : Admitted services before visit := ledger.reason reached
  rcases admitted.token with ⟨text, claims, brought, valid, subscriber, role⟩
  rcases signedBy_of_brought (reached ▸ ledger) unforged brought valid with
    ⟨holder, time, signed, sameSubscriber, sameRole, unexpired⟩
  refine ⟨admitted.session, ⟨text, claims, holder, time, brought, valid, signed, ?_, ?_, unexpired⟩, admitted.admin⟩
  · rw [← sameSubscriber, subscriber]
  · rw [← sameRole, role]

/-! An administrator logs in and asks for the list of relays an hour later. -/

namespace AccessSample

def admin : Subscriber := ⟨"8b1c", "$argon2id$", "admin"⟩

def session : Uuid := ⟨List.replicate 16 7, List.length_replicate⟩

def claims : Claims := claimsFor admin "free" 0

/-- A library that signs one token, and finds no other text signed right. -/
def jwt : JwtLibrary where
  signedString := fun signed => if signed = claims then .ok "token" else .error "unknown"
  parseUnverified := fun text => if text = "token" then .ok ("HS256", claims) else .error .malformed
  verify := fun text => text = "token"

def services : AccessServices where
  passwords := Sample.onePassword
  jwt := jwt
  readUuid := fun _ => some session

def sent : Credentials := ⟨"user@example.com", "correct horse battery staple"⟩

def turn (now : Int) : AccessTurn where
  now := now
  dbNow := now
  decoded := .ok sent
  tier := .ok "free"
  delivery := .arrives
  draw := session
  rows := []

def hour : Int := 3600 * 1000000000

def moves : List (Move Arrival AccessTurn) :=
  .spawn (.login "203.0.113.7") :: List.replicate 7 (.advance 0 (turn 0)) ++
    [.spawn (.request ⟨"Bearer token", none, some session.text, .listRelays⟩), .advance 1 (turn hour),
      .advance 1 (turn hour)]

/-- What the login leaves in the record, and then the request. -/
def recorded : List Deed :=
  [.found 0 "user@example.com" admin, .verified 0 sent admin, .opened 0 admin session 0, .signed 0 admin claims 0,
    .brought "token"]

def visit : Visit := ⟨.listRelays, session, "8b1c", "admin", hour, hour⟩

theorem unforged : Unforged jwt recorded := by
  have genuine : Genuine jwt (recorded.take 4) (.brought "token") := by
    intro read parsed _
    have same : claims = read := congrArg Prod.snd (Except.ok.inj parsed)
    rw [← same]
    exact ⟨0, admin, 0, List.mem_of_getElem? (rfl : (recorded.take 4)[3]? = some (.signed 0 admin claims 0))⟩
  exact .note (.note (.note (.note (.note .nil trivial) trivial) trivial) trivial) genuine

end AccessSample

theorem protected_handler_backed_admin :
    (accesses AccessSample.services ⟨authRateLimiter, 0⟩ [("user@example.com", AccessSample.admin)]
        AccessSample.moves).shared.deeds = AccessSample.recorded ++ [.reached AccessSample.visit] ∧
      Unforged AccessSample.jwt AccessSample.recorded ∧
      Backed AccessSample.services AccessSample.recorded AccessSample.visit := by
  have happened : (accesses AccessSample.services ⟨authRateLimiter, 0⟩ [("user@example.com", AccessSample.admin)]
      AccessSample.moves).shared.deeds = AccessSample.recorded ++ [.reached AccessSample.visit] := by
    rfl
  exact ⟨happened, AccessSample.unforged,
    protected_handler_backed AccessSample.services _ _ _ _ _ _ happened AccessSample.unforged⟩

end Authority
end QuietHop
