import Friendship.Main
import Friendship.Program.Demos
import Friendship.Database.Ideal
import Friendship.Database.Script
import Friendship.Relation.Standing
import Friendship.Service.History
import Friendship.Proofs.Service.Coherence
import Friendship.Proofs.Database.Agreement
import Friendship.Proofs.Service.Independence
import Friendship.Proofs.Service.FriendList
import Friendship.Proofs.Relation.Moves
import Friendship.Proofs.Service.Consent
import Friendship.Proofs.Account.IdText
import Friendship.Proofs.Service.Journal
import Friendship.Proofs.Service.Course
import Friendship.Http.Session
import Friendship.Proofs.Http.Authority
import Friendship.Proofs.Service.SelfRelations
import Friendship.Http.Alternatives
import Friendship.Proofs.Http.Alternatives
import Friendship.Proofs.Http.Statuses
import Friendship.Proofs.Database.Blame
import Friendship.Proofs.Database.Listing
import Friendship.Proofs.Service.Views
import Friendship.Proofs.Service.Policies
import Friendship.Proofs.Service.Integrity
import Friendship.Proofs.Store.Atomicity
import Friendship.Proofs.Database.Discretion
import Friendship.Proofs.Http.Secrecy
import Friendship.Proofs.Http.Operations
import Friendship.Proofs.Service.Retirement
import Friendship.Proofs.Service.Requests
import Friendship.Proofs.Service.EitherSide
import Friendship.Proofs.Service.Times
import Friendship.Proofs.Service.Unseen
import Friendship.Proofs.Account.Spelling
import Friendship.Proofs.Identity.PlainToken
import Friendship.Proofs.Database.ForeignKey
import Friendship.Proofs.Identity.SignedToken
import Friendship.Proofs.Account.TextOrder
import Friendship.Proofs.Store.Rows
import Friendship.Proofs.Database.Reading
import Friendship.Proofs.Server.Seeds
import Friendship.Proofs.Text.Decimal
import Friendship.Proofs.Time.Calendar
import Friendship.Proofs.Time.InstantText
import Friendship.Proofs.Json.Yields
import Friendship.Proofs.Json.RoundTrip
import Friendship.Proofs.Http.FriendListText
