import P4475.Lib.Machine
import P4475.Lib.Slots
import P4475.Identity.Handover
import P4475.Udp.Mirror
import P4475.RaceObject.Replays
import P4475.MyRoom.Lifecycle
import P4475.World.Teams
import P4475.Core.Bml
import P4475.Core.Frame
import P4475.Items.Probability
import P4475.Messenger.Privacy
import P4475.World.MyRooms.Actor
import P4475.Identity.Tickets
import P4475.Profile.KartLevelRuns
import P4475.Profile.FloaterRuns
import P4475.Profile.RaceRewards
import P4475.Profile.IoRuns
import P4475.World.Results
import P4475.World.ItemPickups
import P4475.World.RaceLife
import P4475.World.TrackHistory
import P4475.Connector.PristineRuns
import P4475.Assets.TrackInstallRuns
import P4475.Rho5.AaaRemounts
import P4475.Connector.PinPatch
import P4475.Core.Encoded
import P4475.Profile.FavoriteItems
import P4475.World.RandomTrackOverrides
import P4475.Core.DotNetSingle
import P4475.Core.DotNetReading
import P4475.Profile.KartGrants
import P4475.Profile.InventorySnapshot
import P4475.Xun.ChargerRuns
import P4475.MyRoom.OwnerItemPlan
import P4475.World.RoomIdRuns
import P4475.World.DeliveryRuns
import P4475.Assets.ThemeOrderMerges
import P4475.Assets.TrackOrders
import P4475.GameSlot.ItemBodies
import P4475.GameSlot.Awards
