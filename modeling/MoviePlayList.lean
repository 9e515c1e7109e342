import MoviePlayList.Lib.Transition
import MoviePlayList.Lib.Separated
import MoviePlayList.Lib.ReplaceAll
import MoviePlayList.Lib.Weave
import MoviePlayList.Lib.PercentEncoding
import MoviePlayList.Lib.ListEdit
import MoviePlayList.Lib.Footprint
import MoviePlayList.Resource.Extensions
import MoviePlayList.Resource.StringChange
import MoviePlayList.Resource.AuthManager
import MoviePlayList.Model.MakeListData
import MoviePlayList.Model.Dictionary
import MoviePlayList.Model.Review
import MoviePlayList.Model.User
import MoviePlayList.Lib.SortedList
import MoviePlayList.Firestore.ResourcePath
import MoviePlayList.Firestore.DocumentSet
import MoviePlayList.Firestore.ViewSnapshot
import MoviePlayList.Firestore.View
import MoviePlayList.Firestore.ViewUpdate
import MoviePlayList.Firestore.QuerySnapshot
import MoviePlayList.Firestore.ViewRuns
import MoviePlayList.Firestore.FieldFilter
import MoviePlayList.Firestore.Query
import MoviePlayList.Firestore.ViewLimit
import MoviePlayList.Firestore.QueryListener
import MoviePlayList.Firestore.EventManager
import MoviePlayList.Firestore.SyncEngine
import MoviePlayList.Firestore.PromptLimbo
import MoviePlayList.Firestore.MutationQueue
import MoviePlayList.Firestore.RemoteStore
import MoviePlayList.Firestore.WriteRuns
import MoviePlayList.Api.ReviewService
import MoviePlayList.Api.Backend
import MoviePlayList.Api.AuthService
import MoviePlayList.Api.UserService
import MoviePlayList.Api.APIManager
import MoviePlayList.Api.Coherence
import MoviePlayList.Api.CreateUser
import MoviePlayList.Api.UpdateUserData
import MoviePlayList.Api.ProfileDocument
import MoviePlayList.Main.MainViewController
import MoviePlayList.Profile.ProfileViewController
import MoviePlayList.Search.MovieDetailViewController
import MoviePlayList.Search.MakeListMovieCollectionViewCell
import MoviePlayList.Search.MakeListViewController
import MoviePlayList.Search.GridSafety
import MoviePlayList.Search.ResponseOrder
import MoviePlayList.AddMovie.ReviewListener
import MoviePlayList.AddMovie.ReviewGrid
import MoviePlayList.AddMovie.ReviewQuery
import MoviePlayList.AddMovie.ReviewScreens
import MoviePlayList.Login.AuthenticationGate
import MoviePlayList.Login.AuthenticationForms
