import Cfwdon.Delivery.AttemptCounts
import Cfwdon.Delivery.TerminalStates
import Cfwdon.Delivery.ExpansionRows
import Cfwdon.Delivery.Relays
import Cfwdon.Delivery.FollowReconciliation
import Cfwdon.Inbox.ProcessedMarks
import Cfwdon.Inbox.ClaimOwnership
import Cfwdon.ScheduledStatuses.SingleStatus
import Cfwdon.Conversations.DirectViews
import Cfwdon.Remote.HostOwnership
import Cfwdon.ScheduledStatuses.RequestsHonoured
import Cfwdon.Statuses.SingleCreate
import Cfwdon.OAuth.SingleGrant
import Cfwdon.Auth.RequestIsolation
import Cfwdon.OAuth.BearerSecrets
import Cfwdon.Streaming.SocketScopes
import Cfwdon.Streaming.Deletes
import Cfwdon.Remote.VisibilityRoundTrip
import Cfwdon.Federation.FetchLoops
import Cfwdon.Http.SignatureRoundTrip
import Cfwdon.ScheduledStatuses.DueTimes
import Cfwdon.Inbox.RelayAnswers
import Cfwdon.Timelines.Walk
import Cfwdon.Federation.AuthorityReadings
import Cfwdon.Remote.ReplyLinks
import Cfwdon.Statuses.ContextMatches
import Cfwdon.Statuses.ThreadRoots
import Cfwdon.Statuses.ReblogRuns
import Cfwdon.FollowRequests.ApiIds
import Cfwdon.Counters.Interactions
import Cfwdon.Counters.AccountStatistics
import Cfwdon.Counters.RepliesAndQuotes
import Cfwdon.Delivery.Continuations
import Cfwdon.Lists.StreamFanout
import Cfwdon.AppCache.FreshCapabilities
import Cfwdon.Search.SearchAudience
import Cfwdon.Inbox.FollowResponses
import Cfwdon.Streaming.RepeatedMessages
import Cfwdon.Mirror.SinglePosts
import Cfwdon.Statuses.EditHistory
import Cfwdon.Media.AttachedMedia
import Cfwdon.Streaming.HashtagChannels
import Cfwdon.Streaming.PublishDeliveries
import Cfwdon.Collections.Revocations
import Cfwdon.Conversations.Pages
import Cfwdon.Filters.WholeWords
import Cfwdon.Timelines.TaggedFilter
import Cfwdon.Statuses.SanitizedMarkup
import Cfwdon.Times.Rendered
import Cfwdon.Accounts.TextMentions
import Cfwdon.Search.TagPages
import Cfwdon.Inbox.SharedHandlers
import Cfwdon.Notifications.Groups
import Cfwdon.Notifications.Clears
import Cfwdon.Polls.RemoteRefreshes
import Cfwdon.Http.PageCursors
import Cfwdon.Delivery.DomainBlocks
import Cfwdon.Timelines.LinkUrls
import Cfwdon.WebUi.StreamingHub
import Cfwdon.Media.GifStatic
import Cfwdon.Search.StoredBounds
import Cfwdon.Collections.InCollectionPages
import Cfwdon.Collections.ItemReplacement
import Cfwdon.WebUi.ViewCache
import Cfwdon.Statuses.EditFailures
import Cfwdon.Library.PrefixRanges
import Cfwdon.Search.TagRange
import Cfwdon.Accounts.OutboxWalks
import Cfwdon.BackgroundJobs.ActiveJobs
import Cfwdon.Delivery.DomainRules
import Cfwdon.Inbox.ReplayRules
import Cfwdon.Remote.SettledQuotes
import Cfwdon.ScheduledStatuses.StoredDrafts
